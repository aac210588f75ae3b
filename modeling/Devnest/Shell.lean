import Mathlib

/-!
# Words of a POSIX shell

How a shell reads one line: the characters are lexed into words and `&&`
operators, quotes are removed, and each simple command gets its argument
vector. `commands` answers with the argument vectors of an AND list of simple
commands whose words are literal. It answers `none` for every other text:
where the text is not such a list (other operators, an open quote), and where
the words depend on more than the text (parameter, command, tilde and
pathname expansion).

A word remembers for each character whether it was quoted, since reserved
words, assignments, tildes and patterns count only where they are not.
`cost_le` bounds the words of a text by its length: a text that loses
nothing to quoting was not quoted at all.
-/

namespace Shell

/-- The single quote. -/
def singleQuote : Char := Char.ofNat 39

/-- The grave accent. -/
def graveAccent : Char := Char.ofNat 96

def isBlank (c : Char) : Bool := c = ' ' || c = '\t'

/-- The characters that always have to be quoted to stand for themselves. -/
def isSpecial (c : Char) : Bool :=
  isBlank c || c = singleQuote || c = graveAccent
    || c ∈ ['|', '&', ';', '<', '>', '(', ')', '$', '\\', '"', '\n']

/-- A word: its characters, each with whether it was quoted, and whether
anything of the word was (an empty pair of quotes included). -/
structure Word where
  chars : List (Char × Bool)
  quoted : Bool
  deriving DecidableEq, Repr

namespace Word

def text (w : Word) : List Char := w.chars.map Prod.fst

/-- The word whose characters all stand unquoted. -/
def bare (l : List Char) : Word := ⟨l.map fun c => (c, false), false⟩

def empty : Word := ⟨[], false⟩

def push (w : Word) (c : Char) : Word := { w with chars := w.chars ++ [(c, false)] }

def pushQuoted (w : Word) (c : Char) : Word := ⟨w.chars ++ [(c, true)], true⟩

def openQuote (w : Word) : Word := { w with quoted := true }

@[simp] theorem push_chars (w : Word) (c : Char) : (w.push c).chars = w.chars ++ [(c, false)] := rfl

@[simp] theorem push_quoted (w : Word) (c : Char) : (w.push c).quoted = w.quoted := rfl

@[simp] theorem pushQuoted_chars (w : Word) (c : Char) :
    (w.pushQuoted c).chars = w.chars ++ [(c, true)] := rfl

@[simp] theorem pushQuoted_quoted (w : Word) (c : Char) : (w.pushQuoted c).quoted = true := rfl

@[simp] theorem openQuote_chars (w : Word) : w.openQuote.chars = w.chars := rfl

@[simp] theorem openQuote_quoted (w : Word) : w.openQuote.quoted = true := rfl

@[simp] theorem text_bare (l : List Char) : (bare l).text = l := by
  simp [text, bare, Function.comp_def]

end Word

inductive Token where
  | word (w : Word)
  | andIf
  deriving DecidableEq, Repr

/-! ## Token recognition -/

/-- What the next character continues. -/
inductive Mode where
  | plain
  | escape
  | ampersand
  | single
  | double
  | doubleEscape
  | comment
  deriving DecidableEq, Repr

structure Lexer where
  mode : Mode
  word : Option Word
  done : List Token
  deriving DecidableEq, Repr

namespace Lexer

def start : Lexer := ⟨.plain, none, []⟩

/-- The word being read, an empty one if none is. -/
def current (s : Lexer) : Word := s.word.getD Word.empty

/-- The tokens so far, the word being read included. -/
def tokens (s : Lexer) : List Token := s.done ++ (s.word.map Token.word).toList

/-- A special character outside quotes. -/
def stepSpecial (s : Lexer) (c : Char) : Option Lexer :=
  if isBlank c then some ⟨.plain, none, s.tokens⟩
  else if c = singleQuote then some ⟨.single, some s.current.openQuote, s.done⟩
  else if c = '"' then some ⟨.double, some s.current.openQuote, s.done⟩
  else if c = '\\' then some ⟨.escape, s.word, s.done⟩
  else if c = '&' then some ⟨.ampersand, none, s.tokens⟩
  else none

def step (s : Lexer) (c : Char) : Option Lexer :=
  match s.mode with
  | .plain =>
      if isSpecial c then s.stepSpecial c
      -- a comment starts only where a word would
      else if c = '#' ∧ s.word = none then some ⟨.comment, none, s.done⟩
      else some ⟨.plain, some (s.current.push c), s.done⟩
  | .escape =>
      -- a quoted newline is a line continuation
      if c = '\n' then some ⟨.plain, s.word, s.done⟩
      else some ⟨.plain, some (s.current.pushQuoted c), s.done⟩
  | .ampersand =>
      if c = '&' then some ⟨.plain, none, s.done ++ [.andIf]⟩ else none
  | .single =>
      if c = singleQuote then some ⟨.plain, some s.current, s.done⟩
      else some ⟨.single, some (s.current.pushQuoted c), s.done⟩
  | .double =>
      if c = '"' then some ⟨.plain, some s.current, s.done⟩
      else if c = '$' ∨ c = graveAccent then none
      else if c = '\\' then some ⟨.doubleEscape, some s.current, s.done⟩
      else some ⟨.double, some (s.current.pushQuoted c), s.done⟩
  | .doubleEscape =>
      if c = '\n' then some ⟨.double, some s.current, s.done⟩
      else if c = '$' ∨ c = graveAccent ∨ c = '"' ∨ c = '\\' then
        some ⟨.double, some (s.current.pushQuoted c), s.done⟩
      else some ⟨.double, some ((s.current.pushQuoted '\\').pushQuoted c), s.done⟩
  | .comment => if c = '\n' then none else some s

def feed (s : Lexer) : List Char → Option Lexer
  | [] => some s
  | c :: l => (s.step c).bind fun s' => feed s' l

/-- The tokens at the end of the text; an open quote or operator has none. -/
def finish (s : Lexer) : Option (List Token) :=
  match s.mode with
  | .plain | .comment => some s.tokens
  | _ => none

end Lexer

def lex (text : List Char) : Option (List Token) := (Lexer.start.feed text).bind Lexer.finish

/-! ## Words and simple commands -/

/-- After an unquoted `[`: a bracket expression ends before the next slash. -/
def closesBracket (l : List (Char × Bool)) : Bool :=
  let l := l.takeWhile fun p => p.1 ≠ '/'
  let l := if l.head? = some ('!', false) then l.drop 1 else l
  (l.drop 1).any fun p => p = (']', false)

/-- The word is a pattern, subject to pathname expansion. -/
def hasPattern : List (Char × Bool) → Bool
  | [] => false
  | p :: l =>
      p = ('*', false) || p = ('?', false) || (p = ('[', false) && closesBracket l) || hasPattern l

/-- The word starts with an unquoted tilde-prefix. -/
def hasTilde (l : List (Char × Bool)) : Bool :=
  l.head? = some ('~', false) && (l.takeWhile fun p => p ≠ ('/', false)).all fun p => !p.2

/-- The one field a word expands to, when that does not depend on the host. -/
def expand (w : Word) : Option (List Char) :=
  if hasTilde w.chars || hasPattern w.chars then none else some w.text

def isNameStart (c : Char) : Bool :=
  ('a' ≤ c && c ≤ 'z') || ('A' ≤ c && c ≤ 'Z') || c = '_'

def isNameChar (c : Char) : Bool := isNameStart c || ('0' ≤ c && c ≤ '9')

/-- A name, then `=`, all unquoted. -/
def isAssignment (l : List (Char × Bool)) : Bool :=
  let name := l.takeWhile fun p => !p.2 && isNameChar p.1
  (match name.head? with
    | some p => isNameStart p.1
    | none => false) && (l.drop name.length).head? = some ('=', false)

def reservedWords : List (List Char) :=
  ["!", "\x7b", "\x7d", "case", "do", "done", "elif", "else", "esac", "fi", "for", "if", "in", "then",
    "until", "while"].map String.toList

def isReserved (w : Word) : Bool := !w.quoted && decide (w.text ∈ reservedWords)

/-- The argument vector of a simple command: assignments before the command
name are taken off, and no reserved word stands first. -/
def simpleCommand : List Word → Option (List (List Char))
  | [] => none
  | w :: ws =>
      if isReserved w then none
      else ((w :: ws).dropWhile fun w => isAssignment w.chars).mapM expand

def splitAnd : List Token → List (List Word)
  | [] => [[]]
  | .andIf :: ts => [] :: splitAnd ts
  | .word w :: ts =>
      match splitAnd ts with
      | [] => [[w]]
      | ws :: rest => (w :: ws) :: rest

/-- The argument vectors the text runs, each after the success of the one
before it. -/
def commands (text : List Char) : Option (List (List (List Char))) :=
  (lex text).bind fun ts => (splitAnd ts).mapM simpleCommand

/-! ## Feeding a text in pieces -/

namespace Lexer

@[simp] theorem feed_nil (s : Lexer) : s.feed [] = some s := rfl

theorem feed_cons (s : Lexer) (c : Char) (l : List Char) :
    s.feed (c :: l) = (s.step c).bind fun s' => s'.feed l := rfl

theorem feed_append (s : Lexer) (l₁ l₂ : List Char) :
    s.feed (l₁ ++ l₂) = (s.feed l₁).bind fun s' => s'.feed l₂ := by
  induction l₁ generalizing s with
  | nil => rfl
  | cons c l₁ ih =>
      simp only [List.cons_append, feed_cons, Option.bind_assoc]
      congr 1
      funext s'
      exact ih s'

theorem feed_blank (s : Lexer) (h : s.mode = .plain) (l : List Char) :
    s.feed (' ' :: l) = feed ⟨.plain, none, s.tokens⟩ l := by
  have hstep : s.step ' ' = some ⟨.plain, none, s.tokens⟩ := by
    simp only [step, h]
    rfl
  rw [feed_cons, hstep, Option.bind_some]

end Lexer

/-- A word of a text that the lexer leaves as it is. -/
def IsBare (l : List Char) : Prop :=
  l ≠ [] ∧ (∀ c ∈ l, isSpecial c = false) ∧ l.head? ≠ some '#'

instance (l : List Char) : Decidable (IsBare l) :=
  decidable_of_iff (l ≠ [] ∧ (l.all fun c => !isSpecial c) = true ∧ l.head? ≠ some '#')
    (by simp [IsBare])

theorem feed_push {w : Word} {ts : List Token} {l : List Char}
    (h : ∀ c ∈ l, isSpecial c = false) :
    Lexer.feed ⟨.plain, some w, ts⟩ l
      = some ⟨.plain, some { w with chars := w.chars ++ l.map fun c => (c, false) }, ts⟩ := by
  induction l generalizing w with
  | nil => simp
  | cons c l ih =>
      have hc : isSpecial c = false := h c (List.mem_cons_self ..)
      have hstep : Lexer.step ⟨.plain, some w, ts⟩ c = some ⟨.plain, some (w.push c), ts⟩ := by
        simp [Lexer.step, hc, Lexer.current]
      rw [Lexer.feed_cons, hstep, Option.bind_some, ih fun d hd => h d (List.mem_cons_of_mem _ hd)]
      simp [Word.push]

theorem feed_bare {ts : List Token} {l : List Char} (h : IsBare l) :
    Lexer.feed ⟨.plain, none, ts⟩ l = some ⟨.plain, some (Word.bare l), ts⟩ := by
  obtain ⟨hne, hall, hhash⟩ := h
  obtain ⟨c, l, rfl⟩ := List.exists_cons_of_ne_nil hne
  have hc : isSpecial c = false := hall c (List.mem_cons_self ..)
  have hc' : c ≠ '#' := by simpa using hhash
  have hstep : Lexer.step ⟨.plain, none, ts⟩ c
      = some ⟨.plain, some (Word.empty.push c), ts⟩ := by
    simp [Lexer.step, hc, hc', Lexer.current]
  rw [Lexer.feed_cons, hstep, Option.bind_some,
    feed_push fun d hd => hall d (List.mem_cons_of_mem _ hd)]
  simp [Word.bare, Word.empty, Word.push]

/-! ## Nothing is free: the words of a text against its length -/

/-- What a word takes in a text: its characters, a separator, and one more
when anything of it was quoted. -/
def Word.cost (w : Word) : Nat := w.chars.length + 1 + w.quoted.toNat

def cost (ts : List Token) : Nat :=
  (ts.map fun t => match t with
    | .word w => w.cost
    | .andIf => 0).sum

@[simp] theorem cost_append (ts us : List Token) : cost (ts ++ us) = cost ts + cost us := by
  simp [cost]

@[simp] theorem cost_nil : cost [] = 0 := rfl

@[simp] theorem cost_andIf (ts : List Token) : cost (.andIf :: ts) = cost ts := by
  simp [cost]

@[simp] theorem cost_word (w : Word) (ts : List Token) : cost (.word w :: ts) = w.cost + cost ts := by
  simp [cost]

/-- What the text read so far may have given: the tokens, and the allowance of
the part that is not a token yet. -/
def Lexer.allowance (s : Lexer) : Nat :=
  cost s.done + match s.mode, s.word with
    | .plain, none => 1
    | .plain, some w => w.cost
    | .escape, none => 2
    | .escape, some w => w.cost + 1
    | .ampersand, _ => 0
    | .single, w | .double, w => (w.getD Word.empty).chars.length + 1
    | .doubleEscape, w => (w.getD Word.empty).chars.length + 2
    | .comment, _ => 0

/-- Words are flagged as quoted while a quote is open, and no word is being
read where none can be. -/
def Lexer.Flagged (s : Lexer) : Prop :=
  match s.mode with
  | .single | .double | .doubleEscape => s.current.quoted = true
  | .ampersand | .comment => s.word = none
  | _ => True

theorem Lexer.stepSpecial_allowance {s s' : Lexer} {c : Char} (hm : s.mode = .plain)
    (h : s.stepSpecial c = some s') : s'.Flagged ∧ s'.allowance ≤ s.allowance + 1 := by
  obtain ⟨mode, word, done⟩ := s
  obtain rfl : mode = .plain := hm
  unfold Lexer.stepSpecial at h
  split_ifs at h <;> cases h <;> cases word
    <;> simp [Lexer.Flagged, Lexer.allowance, Lexer.tokens, Lexer.current, Word.cost, Word.empty]
    <;> omega

theorem Lexer.step_allowance {s s' : Lexer} {c : Char} (hf : s.Flagged) (h : s.step c = some s') :
    s'.Flagged ∧ s'.allowance ≤ s.allowance + 1 := by
  obtain ⟨mode, word, done⟩ := s
  cases mode with
  | plain =>
      simp only [Lexer.step] at h
      split_ifs at h with hsp hhash
      · exact stepSpecial_allowance rfl h
      · cases h
        obtain rfl : word = none := hhash.2
        exact ⟨rfl, Nat.le_trans (Nat.le_add_right _ 1) (Nat.le_succ _)⟩
      · cases h
        cases word with
        | none => simp [Lexer.Flagged, Lexer.allowance, Lexer.current, Word.cost, Word.empty]
        | some w =>
            simp [Lexer.Flagged, Lexer.allowance, Lexer.current, Word.cost]
            omega
  | escape =>
      simp only [Lexer.step] at h
      split_ifs at h <;> cases h <;> cases word
        <;> simp [Lexer.Flagged, Lexer.allowance, Lexer.current, Word.cost, Word.empty] <;> omega
  | ampersand =>
      simp only [Lexer.step] at h
      split_ifs at h
      cases h
      simp [Lexer.Flagged, Lexer.allowance]
  | single =>
      simp only [Lexer.step] at h
      split_ifs at h <;> cases h <;> cases word
        <;> simp_all [Lexer.Flagged, Lexer.allowance, Lexer.current, Word.cost, Word.empty]
        <;> omega
  | double =>
      simp only [Lexer.step] at h
      split_ifs at h <;> cases h <;> cases word
        <;> simp_all [Lexer.Flagged, Lexer.allowance, Lexer.current, Word.cost, Word.empty]
        <;> omega
  | doubleEscape =>
      simp only [Lexer.step] at h
      split_ifs at h <;> cases h <;> cases word
        <;> simp_all [Lexer.Flagged, Lexer.allowance, Lexer.current, Word.empty]
        <;> omega
  | comment =>
      simp only [Lexer.step] at h
      split_ifs at h
      cases h
      exact ⟨hf, Nat.le_succ _⟩

theorem Lexer.feed_allowance {l : List Char} {s s' : Lexer} (hf : s.Flagged)
    (h : s.feed l = some s') : s'.Flagged ∧ s'.allowance ≤ s.allowance + l.length := by
  induction l generalizing s with
  | nil =>
      cases h
      exact ⟨hf, Nat.le_refl _⟩
  | cons c l ih =>
      rw [feed_cons] at h
      obtain ⟨s₁, hs₁, h⟩ := Option.bind_eq_some_iff.mp h
      obtain ⟨hf₁, hle₁⟩ := step_allowance hf hs₁
      obtain ⟨hf', hle⟩ := ih hf₁ h
      refine ⟨hf', ?_⟩
      rw [List.length_cons]
      omega

theorem Lexer.finish_cost {s : Lexer} {ts : List Token} (hf : s.Flagged)
    (h : s.finish = some ts) : cost ts ≤ s.allowance := by
  obtain ⟨mode, word, done⟩ := s
  cases mode <;> simp only [Lexer.finish, reduceCtorEq, Option.some.injEq] at h <;> subst h
  · cases word <;> simp [Lexer.tokens, Lexer.allowance]
  · obtain rfl : word = none := hf
    simp [Lexer.tokens, Lexer.allowance]

/-- Every character of a word, every separator and every quoted word is paid
for by a character of the text. -/
theorem cost_le {text : List Char} {ts : List Token} (h : lex text = some ts) :
    cost ts ≤ text.length + 1 := by
  obtain ⟨s, hs, hts⟩ := Option.bind_eq_some_iff.mp h
  obtain ⟨hf, hle⟩ := Lexer.feed_allowance (s := Lexer.start) trivial hs
  have hstart : Lexer.start.allowance = 1 := rfl
  have hcost := Lexer.finish_cost hf hts
  omega

/-! ## A word that was not quoted is bare -/

/-- A word with nothing quoted is made of the characters as they stood. -/
def Word.Formed (w : Word) : Prop := w.quoted = false → ∃ l, IsBare l ∧ w = Word.bare l

def Lexer.Formed (s : Lexer) : Prop :=
  (∀ w, .word w ∈ s.done → w.Formed) ∧ ∀ w, s.word = some w → w.Formed

theorem Word.formed_of_quoted {w : Word} (h : w.quoted = true) : w.Formed := fun h' => by
  rw [h] at h'
  cases h'

theorem Word.push_formed {w : Word} {c : Char} (hw : w.Formed) (hc : isSpecial c = false) :
    (w.push c).Formed := by
  intro hq
  obtain ⟨l, ⟨hne, hall, hhash⟩, rfl⟩ := hw hq
  refine ⟨l ++ [c], ⟨by simp, ?_, ?_⟩, by simp [Word.push, Word.bare]⟩
  · intro d hd
    rcases List.mem_append.mp hd with hd | hd
    · exact hall d hd
    · rw [List.mem_singleton.mp hd]
      exact hc
  · rwa [List.head?_append_of_ne_nil _ hne]

theorem Word.first_formed {c : Char} (hc : isSpecial c = false) (hhash : c ≠ '#') :
    (Word.empty.push c).Formed := fun _ =>
  ⟨[c], ⟨by simp, by simpa using hc, by simpa using hhash⟩, rfl⟩

theorem Lexer.Formed.tokens {s : Lexer} (h : s.Formed) {w : Word} (hw : .word w ∈ s.tokens) :
    w.Formed := by
  rcases List.mem_append.mp hw with hw | hw
  · exact h.1 w hw
  · refine h.2 w ?_
    simpa using hw

theorem Lexer.Formed.quoted {s : Lexer} (h : s.Formed) {m : Mode} {w : Word}
    (hw : w.quoted = true) : Lexer.Formed ⟨m, some w, s.done⟩ := by
  refine ⟨h.1, ?_⟩
  rintro _ ⟨⟩
  exact Word.formed_of_quoted hw

theorem Lexer.Formed.none {s : Lexer} (h : s.Formed) {m : Mode} :
    Lexer.Formed ⟨m, .none, s.tokens⟩ :=
  ⟨fun _ hw => h.tokens hw, fun _ hw => by cases hw⟩

theorem Lexer.stepSpecial_formed {s s' : Lexer} {c : Char} (hw : s.Formed)
    (h : s.stepSpecial c = some s') : s'.Formed := by
  unfold Lexer.stepSpecial at h
  split_ifs at h <;> cases h
  · exact hw.none
  · exact hw.quoted rfl
  · exact hw.quoted rfl
  · exact ⟨hw.1, hw.2⟩
  · exact hw.none

theorem Lexer.step_formed {s s' : Lexer} {c : Char} (hf : s.Flagged) (hw : s.Formed)
    (h : s.step c = some s') : s'.Formed := by
  obtain ⟨mode, word, done⟩ := s
  cases mode with
  | plain =>
      simp only [Lexer.step] at h
      split_ifs at h with hsp hhash
      · exact stepSpecial_formed hw h
      · cases h
        exact ⟨hw.1, fun _ hw => by cases hw⟩
      · cases h
        have hc : isSpecial c = false := by simpa using hsp
        refine ⟨hw.1, ?_⟩
        rintro _ ⟨⟩
        cases word with
        | none =>
            have hne : c ≠ '#' := fun hc => hhash ⟨hc, rfl⟩
            exact Word.first_formed hc hne
        | some w => exact Word.push_formed (hw.2 w rfl) hc
  | escape =>
      simp only [Lexer.step] at h
      split_ifs at h <;> cases h
      · exact ⟨hw.1, hw.2⟩
      · exact hw.quoted rfl
  | ampersand =>
      simp only [Lexer.step] at h
      split_ifs at h
      cases h
      refine ⟨fun w hmem => ?_, fun _ hw => by cases hw⟩
      exact hw.1 w (by simpa using hmem)
  | single =>
      simp only [Lexer.step] at h
      split_ifs at h <;> cases h
      · exact hw.quoted hf
      · exact hw.quoted rfl
  | double =>
      simp only [Lexer.step] at h
      split_ifs at h <;> cases h
      · exact hw.quoted hf
      · exact hw.quoted hf
      · exact hw.quoted rfl
  | doubleEscape =>
      simp only [Lexer.step] at h
      split_ifs at h <;> cases h
      · exact hw.quoted hf
      · exact hw.quoted rfl
      · exact hw.quoted rfl
  | comment =>
      simp only [Lexer.step] at h
      split_ifs at h
      cases h
      exact hw

theorem Lexer.feed_formed {l : List Char} {s s' : Lexer} (hf : s.Flagged) (hw : s.Formed)
    (h : s.feed l = some s') : s'.Formed := by
  induction l generalizing s with
  | nil =>
      cases h
      exact hw
  | cons c l ih =>
      rw [feed_cons] at h
      obtain ⟨s₁, hs₁, h⟩ := Option.bind_eq_some_iff.mp h
      exact ih (step_allowance hf hs₁).1 (step_formed hf hw hs₁) h

theorem lex_formed {text : List Char} {ts : List Token} (h : lex text = some ts) {w : Word}
    (hw : .word w ∈ ts) : w.Formed := by
  obtain ⟨s, hs, hts⟩ := Option.bind_eq_some_iff.mp h
  have hstart : Lexer.start.Formed := by
    constructor <;> (intro _ h; cases h)
  have hflag : Lexer.start.Flagged := trivial
  have hs' : s.Formed := Lexer.feed_formed hflag hstart hs
  obtain rfl : s.tokens = ts := by
    revert hts
    unfold Lexer.finish
    split <;> simp
  exact hs'.tokens hw

/-! ## Texts of words with single blanks between them -/

theorem splitAnd_words (ws : List Word) : splitAnd (ws.map .word) = [ws] := by
  induction ws with
  | nil => rfl
  | cons w ws ih => simp [splitAnd, ih]

/-- Only a list of words without `&&` is one command. -/
theorem eq_words_of_splitAnd {ts : List Token} {ws : List Word} (h : splitAnd ts = [ws]) :
    ts = ws.map .word := by
  induction ts generalizing ws with
  | nil =>
      obtain rfl : [] = ws := by simpa [splitAnd] using h
      rfl
  | cons t ts ih =>
      have hne : splitAnd ts ≠ [] := by
        cases ts with
        | nil => simp [splitAnd]
        | cons t ts =>
            cases t with
            | andIf => simp [splitAnd]
            | word w =>
                simp only [splitAnd]
                split <;> simp
      obtain ⟨us, rest, hus⟩ := List.exists_cons_of_ne_nil hne
      cases t with
      | andIf => simp [splitAnd, hus] at h
      | word w =>
          simp only [splitAnd, hus] at h
          obtain ⟨rfl, rfl⟩ : w :: us = ws ∧ rest = [] := by simpa using h
          rw [ih hus]
          rfl

/-- A text that reads as the word `w` wherever a word may start. -/
def ReadsAs (text : List Char) (w : Word) : Prop :=
  ∀ ts, Lexer.feed ⟨.plain, none, ts⟩ text = some ⟨.plain, some w, ts⟩

theorem ReadsAs.of_bare {l : List Char} (h : IsBare l) : ReadsAs l (Word.bare l) :=
  fun _ => feed_bare h

/-- Texts joined with single blanks read as their words, in order. -/
theorem feed_intercalate (ts : List Token) (pairs : List (List Char × Word)) (hne : pairs ≠ [])
    (h : ∀ p ∈ pairs, ReadsAs p.1 p.2) :
    (Lexer.feed ⟨.plain, none, ts⟩ ([' '].intercalate (pairs.map Prod.fst))).bind Lexer.finish
      = some (ts ++ pairs.map fun p => .word p.2) := by
  induction pairs generalizing ts with
  | nil => exact absurd rfl hne
  | cons p pairs ih =>
      have hp : Lexer.feed ⟨.plain, none, ts⟩ p.1 = some ⟨.plain, some p.2, ts⟩ :=
        h p (List.mem_cons_self ..) ts
      cases pairs with
      | nil => simp [hp, Lexer.finish, Lexer.tokens]
      | cons q pairs =>
          have hrest := ih (ts ++ [.word p.2]) (List.cons_ne_nil q pairs)
            fun r hr => h r (List.mem_cons_of_mem _ hr)
          rw [List.map_cons, List.map_cons, List.intercalate_cons_cons, List.append_assoc,
            Lexer.feed_append, hp, Option.bind_some, List.singleton_append,
            Lexer.feed_blank _ rfl]
          rw [List.map_cons] at hrest
          simpa [Lexer.tokens] using hrest

theorem length_intercalate {l : List (List Char)} (hne : l ≠ []) :
    ([' '].intercalate l).length + 1 = (l.map fun w => w.length + 1).sum := by
  induction l with
  | nil => exact absurd rfl hne
  | cons w l ih =>
      cases l with
      | nil => simp
      | cons v l =>
          have hrest := ih (List.cons_ne_nil v l)
          rw [List.intercalate_cons_cons, List.map_cons, List.sum_cons, ← hrest]
          simp
          omega

/-! ## Words joined as they stand -/

/-- A word that the shell hands on as it is written. -/
def IsLiteral (w : List Char) : Prop :=
  IsBare w ∧ w.head? ≠ some '~' ∧ hasPattern (Word.bare w).chars = false

instance (w : List Char) : Decidable (IsLiteral w) := by
  unfold IsLiteral
  infer_instance

/-- The word may stand first: it is the command name. -/
def NamesCommand (w : Word) : Prop := isReserved w = false ∧ isAssignment w.chars = false

instance (w : Word) : Decidable (NamesCommand w) := by
  unfold NamesCommand
  infer_instance

theorem hasTilde_bare (w : List Char) :
    hasTilde (Word.bare w).chars = decide (w.head? = some '~') := by
  have hall : ((Word.bare w).chars.takeWhile fun p => p ≠ ('/', false)).all (fun p => !p.2) = true := by
    rw [List.all_eq_true]
    intro p hp
    have hmem : p ∈ w.map fun c => (c, false) := List.takeWhile_subset _ hp
    obtain ⟨c, -, rfl⟩ := List.mem_map.mp hmem
    rfl
  rw [hasTilde, hall, Bool.and_true]
  cases w with
  | nil => rfl
  | cons c w => simp [Word.bare]

theorem expand_bare {w : List Char} :
    expand (Word.bare w) = if w.head? = some '~' ∨ hasPattern (Word.bare w).chars = true
      then none else some w := by
  simp [expand, hasTilde_bare]

theorem expand_of_literal {w : List Char} (h : IsLiteral w) : expand (Word.bare w) = some w := by
  rw [expand_bare, if_neg]
  rintro (ht | hp)
  · exact h.2.1 ht
  · rw [h.2.2] at hp
    cases hp

theorem expand_text {w : Word} {l : List Char} (h : expand w = some l) : l = w.text := by
  unfold expand at h
  split_ifs at h
  exact (Option.some.inj h).symm

theorem simpleCommand_eq {w : Word} {ws : List Word} (h : NamesCommand w) :
    simpleCommand (w :: ws) = (w :: ws).mapM expand := by
  rw [simpleCommand, if_neg (by simp [h.1]), List.dropWhile_cons_of_neg (by simp [h.2])]

theorem mapM_expand {ws : List Word} {argv : List (List Char)} (h : ws.mapM expand = some argv) :
    argv = ws.map Word.text := by
  induction ws generalizing argv with
  | nil => simpa using h.symm
  | cons w ws ih =>
      simp only [List.mapM_cons, Option.bind_eq_bind, Option.bind_eq_some_iff, Option.pure_def,
        Option.some.injEq] at h
      obtain ⟨l, hl, ls, hls, rfl⟩ := h
      rw [List.map_cons, expand_text hl, ih hls]

theorem mapM_expand_of {ws : List Word} (h : ∀ w ∈ ws, expand w = some w.text) :
    ws.mapM expand = some (ws.map Word.text) := by
  induction ws with
  | nil => rfl
  | cons w ws ih =>
      rw [List.mapM_cons, h w (List.mem_cons_self ..),
        ih fun v hv => h v (List.mem_cons_of_mem _ hv)]
      rfl

/-- Either the first word is the command name and every word is an argument,
or the first word is taken off. -/
theorem simpleCommand_cases {w : Word} {ws : List Word} {argv : List (List Char)}
    (h : simpleCommand (w :: ws) = some argv) :
    (NamesCommand w ∧ (w :: ws).mapM expand = some argv)
      ∨ ∃ post, post <:+ ws ∧ argv = post.map Word.text := by
  rw [simpleCommand] at h
  split_ifs at h with hres
  cases ha : isAssignment w.chars with
  | false =>
      rw [List.dropWhile_cons_of_neg (by simp [ha])] at h
      exact .inl ⟨⟨by simpa using hres, ha⟩, h⟩
  | true =>
      rw [List.dropWhile_cons_of_pos (by simp [ha])] at h
      exact .inr ⟨_, List.dropWhile_suffix _, mapM_expand h⟩

/-- One argument vector comes from one simple command. -/
theorem commands_eq_singleton {text : List Char} {argv : List (List Char)}
    (h : commands text = some [argv]) :
    ∃ ws, lex text = some (ws.map .word) ∧ simpleCommand ws = some argv := by
  obtain ⟨ts, hts, h⟩ := Option.bind_eq_some_iff.mp h
  cases hsp : splitAnd ts with
  | nil => simp [hsp] at h
  | cons ws rest =>
      simp only [hsp, List.mapM_cons, Option.bind_eq_bind, Option.bind_eq_some_iff,
        Option.pure_def, Option.some.injEq, List.cons.injEq] at h
      obtain ⟨_, hws, vs, hvs, rfl, rfl⟩ := h
      cases rest with
      | nil =>
          rw [eq_words_of_splitAnd hsp] at hts
          exact ⟨ws, hts, hws⟩
      | cons us rest =>
          simp only [List.mapM_cons, Option.bind_eq_bind, Option.bind_eq_some_iff,
            Option.pure_def, Option.some.injEq, reduceCtorEq, and_false, exists_false] at hvs

theorem cost_words (ws : List Word) :
    cost (ws.map .word) = ((ws.map Word.text).map fun l => l.length + 1).sum
      + (ws.map fun w => w.quoted.toNat).sum := by
  induction ws with
  | nil => rfl
  | cons w ws ih =>
      simp only [List.map_cons, cost_word, ih, List.sum_cons, Word.cost, Word.text, List.length_map]
      omega

theorem cost_suffix {post ws : List Word} (h : post <:+ ws) :
    cost (post.map .word) ≤ cost (ws.map .word) := by
  obtain ⟨pre, rfl⟩ := h
  rw [List.map_append, cost_append]
  exact Nat.le_add_left _ _

theorem mapM_bare_expand {l argv : List (List Char)}
    (h : (l.map Word.bare).mapM expand = some argv) {w : List Char} (hw : w ∈ l) :
    expand (Word.bare w) = some w := by
  induction l generalizing argv with
  | nil => cases hw
  | cons v l ih =>
      simp only [List.map_cons, List.mapM_cons, Option.bind_eq_bind, Option.bind_eq_some_iff] at h
      obtain ⟨t, ht, ts, hts, -⟩ := h
      rcases List.mem_cons.mp hw with rfl | hw
      · have htext := expand_text ht
        rw [Word.text_bare] at htext
        rw [ht, htext]
      · exact ih hts hw

/-- Nothing is lost only when nothing was quoted: the words are then the
texts themselves. -/
theorem words_bare {cmd : List (List Char)} {ws : List Word} (hne : cmd ≠ [])
    (hlex : lex ([' '].intercalate cmd) = some (ws.map .word)) (h : cmd = ws.map Word.text) :
    ws = cmd.map Word.bare ∧ ∀ l ∈ cmd, IsBare l := by
  have hle := cost_le hlex
  rw [length_intercalate hne, cost_words, ← h] at hle
  have hsum : (ws.map fun w => w.quoted.toNat).sum = 0 := by omega
  have hbare : ∀ w ∈ ws, ∃ l, IsBare l ∧ w = Word.bare l := by
    intro w hw
    have hq : w.quoted.toNat = 0 := by
      exact List.sum_eq_zero_iff_forall_eq_nat.mp hsum _ (List.mem_map_of_mem hw)
    exact lex_formed hlex (List.mem_map_of_mem hw) (by simpa using hq)
  subst h
  constructor
  · have hid : ∀ w ∈ ws, w = (Word.bare ∘ Word.text) w := by
      intro w hw
      obtain ⟨l, -, rfl⟩ := hbare w hw
      simp
    rw [List.map_map, ← List.map_congr_left hid, List.map_id']
  · intro l hl
    obtain ⟨w, hw, rfl⟩ := List.mem_map.mp hl
    obtain ⟨l, hbl, rfl⟩ := hbare w hw
    simpa using hbl

/-- Words joined with blanks come back as they were exactly when the shell
would hand on each of them as written and the first one is a command name. -/
theorem commands_intercalate_iff {w : List Char} {ws : List (List Char)} :
    commands ([' '].intercalate (w :: ws)) = some [w :: ws]
      ↔ (∀ l ∈ w :: ws, IsLiteral l) ∧ NamesCommand (Word.bare w) := by
  constructor
  · intro h
    obtain ⟨vs, hlex, hcmd⟩ := commands_eq_singleton h
    cases vs with
    | nil => cases hcmd
    | cons v vs =>
        rcases simpleCommand_cases hcmd with ⟨hname, hmap⟩ | ⟨post, hpost, hargv⟩
        · obtain ⟨hvs, hall⟩ := words_bare (List.cons_ne_nil w ws) hlex (mapM_expand hmap)
          rw [hvs] at hmap
          obtain ⟨rfl, -⟩ : v = Word.bare w ∧ vs = ws.map Word.bare := by simpa using hvs
          refine ⟨fun l hl => ⟨hall l hl, ?_⟩, hname⟩
          have hexp := mapM_bare_expand hmap hl
          rw [expand_bare] at hexp
          split_ifs at hexp with hc
          rw [not_or] at hc
          exact ⟨hc.1, by simpa using hc.2⟩
        · -- a word that is taken off is missing from the count
          have hle := cost_le hlex
          have hsuf := cost_suffix hpost
          rw [length_intercalate (List.cons_ne_nil w ws), hargv] at hle
          rw [cost_words post] at hsuf
          rw [List.map_cons, cost_word] at hle
          have hpos : 0 < v.cost := Nat.lt_of_lt_of_le (Nat.succ_pos _) (Nat.le_add_right _ _)
          omega
  · rintro ⟨hall, hname⟩
    have hfeed := feed_intercalate [] ((w :: ws).map fun l => (l, Word.bare l))
      (by simp) (by
        intro p hp
        obtain ⟨l, hl, rfl⟩ := List.mem_map.mp hp
        exact ReadsAs.of_bare (hall l hl).1)
    have hlex : lex ([' '].intercalate (w :: ws)) = some (((w :: ws).map Word.bare).map .word) := by
      simpa [lex, Lexer.start, Function.comp_def] using hfeed
    have hmap : ((w :: ws).map Word.bare).mapM expand = some (w :: ws) := by
      have hexp : ∀ v ∈ (w :: ws).map Word.bare, expand v = some v.text := by
        intro v hv
        obtain ⟨l, hl, rfl⟩ := List.mem_map.mp hv
        rw [expand_of_literal (hall l hl), Word.text_bare]
      rw [mapM_expand_of hexp, List.map_map]
      simp [Function.comp_def]
    rw [commands, hlex, Option.bind_some, splitAnd_words, List.map_cons]
    rw [List.map_cons] at hmap
    simp only [List.mapM_cons, List.mapM_nil]
    rw [simpleCommand_eq hname, hmap]
    rfl

/-! ## Quoting a word -/

/-- A character `shlex` leaves unquoted. -/
def isSafe (c : Char) : Bool := isNameChar c || c ∈ ['@', '%', '+', '=', ':', ',', '.', '/', '-']

def IsSafe (w : List Char) : Prop := w ≠ [] ∧ ∀ c ∈ w, isSafe c = true

instance (w : List Char) : Decidable (IsSafe w) :=
  decidable_of_iff (w ≠ [] ∧ w.all isSafe = true) (by simp [IsSafe])

/-- Inside single quotes a single quote is written by leaving them. -/
def escapeQuote (c : Char) : List Char :=
  if c = singleQuote then [singleQuote, '"', singleQuote, '"', singleQuote] else [c]

/-- `shlex.quote`. -/
def shlexQuote (w : List Char) : List Char :=
  if w = [] then [singleQuote, singleQuote]
  else if w.all isSafe = true then w
  else [singleQuote] ++ w.flatMap escapeQuote ++ [singleQuote]

/-- `shlex.join`. -/
def shlexJoin (ws : List (List Char)) : List Char := [' '].intercalate (ws.map shlexQuote)

/-- The word a quoted text is read as. -/
def quotedWord (w : List Char) : Word :=
  if IsSafe w then Word.bare w else ⟨w.map fun c => (c, true), true⟩

/-- No character that the shell would act on is left unquoted. -/
theorem inert_of_isSafe {c : Char} (h : isSafe c = true) :
    isSpecial c = false ∧ c ≠ '#' ∧ c ≠ '~' ∧ c ≠ '*' ∧ c ≠ '?' ∧ c ≠ '[' := by
  refine ⟨?_, ?_, ?_, ?_, ?_, ?_⟩
  · rw [← Bool.not_eq_true]
    intro hs
    simp only [isSpecial, isBlank, Bool.or_eq_true, decide_eq_true_eq, List.mem_cons,
      List.not_mem_nil, or_false] at hs
    rcases hs with ((((rfl | rfl) | rfl) | rfl)
      | (rfl | rfl | rfl | rfl | rfl | rfl | rfl | rfl | rfl | rfl | rfl)) <;> revert h <;> decide
  all_goals
    rintro rfl
    revert h
    decide

theorem hasPattern_of_inert {l : List (Char × Bool)}
    (h : ∀ p ∈ l, p.2 = true ∨ isSafe p.1 = true) : hasPattern l = false := by
  induction l with
  | nil => rfl
  | cons p l ih =>
      have hl := ih fun q hq => h q (List.mem_cons_of_mem _ hq)
      have hne : p ≠ ('*', false) ∧ p ≠ ('?', false) ∧ p ≠ ('[', false) := by
        rcases h p (List.mem_cons_self ..) with hq | hs
        · refine ⟨?_, ?_, ?_⟩ <;> (rintro rfl; cases hq)
        · have hc := inert_of_isSafe hs
          refine ⟨?_, ?_, ?_⟩ <;> (rintro rfl; simp at hc)
      simp [hasPattern, hl, hne]

theorem IsSafe.literal {w : List Char} (h : IsSafe w) : IsLiteral w := by
  obtain ⟨hne, hall⟩ := h
  have hhead : ∀ c, w.head? = some c → isSafe c = true := fun c hc =>
    hall c (List.mem_of_head? hc)
  refine ⟨⟨hne, fun c hc => (inert_of_isSafe (hall c hc)).1, fun hc => ?_⟩, fun hc => ?_, ?_⟩
  · exact (inert_of_isSafe (hhead _ hc)).2.1 rfl
  · exact (inert_of_isSafe (hhead _ hc)).2.2.1 rfl
  · refine hasPattern_of_inert fun p hp => .inr ?_
    obtain ⟨c, hc, rfl⟩ := List.mem_map.mp hp
    exact hall c hc

/-- Between single quotes every character is read as itself. -/
theorem feed_escapeQuote {v : Word} {ts : List Token} {w : List Char} (hv : v.quoted = true) :
    Lexer.feed ⟨.single, some v, ts⟩ (w.flatMap escapeQuote)
      = some ⟨.single, some ⟨v.chars ++ w.map fun c => (c, true), true⟩, ts⟩ := by
  induction w generalizing v with
  | nil =>
      obtain ⟨chars, quoted⟩ := v
      obtain rfl : quoted = true := hv
      simp
  | cons c w ih =>
      have hc : Lexer.feed ⟨.single, some v, ts⟩ (escapeQuote c)
          = some ⟨.single, some (v.pushQuoted c), ts⟩ := by
        obtain ⟨chars, quoted⟩ := v
        obtain rfl : quoted = true := hv
        unfold escapeQuote
        split_ifs with hq
        · subst hq
          rfl
        · simp [Lexer.feed, Lexer.step, hq, Lexer.current]
      rw [List.flatMap_cons, Lexer.feed_append, hc, Option.bind_some, ih rfl]
      simp

theorem readsAs_shlexQuote (w : List Char) : ReadsAs (shlexQuote w) (quotedWord w) := by
  by_cases hs : IsSafe w
  · have hq : shlexQuote w = w := by
      rw [shlexQuote, if_neg hs.1, if_pos (List.all_eq_true.mpr hs.2)]
    rw [hq, quotedWord, if_pos hs]
    exact ReadsAs.of_bare hs.literal.1
  · intro ts
    rw [quotedWord, if_neg hs]
    by_cases hw : w = []
    · subst hw
      rfl
    · have hq : shlexQuote w = singleQuote :: (w.flatMap escapeQuote ++ [singleQuote]) := by
        rw [shlexQuote, if_neg hw, if_neg fun h => hs ⟨hw, List.all_eq_true.mp h⟩]
        rfl
      have hopen : Lexer.step ⟨.plain, none, ts⟩ singleQuote
          = some ⟨.single, some Word.empty.openQuote, ts⟩ := rfl
      rw [hq, Lexer.feed_cons, hopen, Option.bind_some, Lexer.feed_append,
        feed_escapeQuote rfl, Option.bind_some]
      rfl

theorem expand_quotedWord (w : List Char) : expand (quotedWord w) = some w := by
  unfold quotedWord
  split_ifs with hs
  · exact expand_of_literal hs.literal
  · have ht : hasTilde (w.map fun c => (c, true)) = false := by
      cases w <;> simp [hasTilde]
    have hp : hasPattern (w.map fun c => (c, true)) = false := by
      refine hasPattern_of_inert fun p hp => .inl ?_
      obtain ⟨c, -, rfl⟩ := List.mem_map.mp hp
      rfl
    simp [expand, ht, hp, Word.text, Function.comp_def]

theorem text_quotedWord (w : List Char) : (quotedWord w).text = w :=
  (expand_text (expand_quotedWord w)).symm

/-- A quoted word is a command name unless it was left unquoted and is none. -/
theorem namesCommand_quotedWord_iff (w : List Char) :
    NamesCommand (quotedWord w) ↔ (IsSafe w → NamesCommand (Word.bare w)) := by
  unfold quotedWord
  split_ifs with hs
  · simp [hs]
  · simp only [hs, false_imp_iff, iff_true]
    refine ⟨rfl, ?_⟩
    cases w <;> simp [isAssignment]

theorem splitAnd_words_andIf (us ws : List Word) :
    splitAnd (us.map .word ++ .andIf :: ws.map .word) = [us, ws] := by
  induction us with
  | nil => simp [splitAnd, splitAnd_words]
  | cons u us ih => simp [splitAnd, ih]

/-- Quoted words come back as they were exactly when the first one is a
command name as it is written. -/
theorem simpleCommand_quoted_iff {w : List Char} {ws : List (List Char)} :
    simpleCommand ((w :: ws).map quotedWord) = some (w :: ws)
      ↔ (IsSafe w → NamesCommand (Word.bare w)) := by
  rw [← namesCommand_quotedWord_iff, List.map_cons]
  constructor
  · intro h
    rcases simpleCommand_cases h with ⟨hname, -⟩ | ⟨post, hpost, hargv⟩
    · exact hname
    · -- a word that is taken off is missing
      have hlen := hpost.length_le
      have heq := congrArg List.length hargv
      simp only [List.length_cons, List.length_map] at hlen heq
      omega
  · intro hname
    rw [simpleCommand_eq hname, ← List.map_cons, mapM_expand_of]
    · simp [List.map_map, Function.comp_def, text_quotedWord]
    · intro v hv
      obtain ⟨l, -, rfl⟩ := List.mem_map.mp hv
      rw [expand_quotedWord, text_quotedWord]

end Shell
