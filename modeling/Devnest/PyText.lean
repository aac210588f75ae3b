import Mathlib.Data.List.Infix
import Mathlib.Data.List.DropRight

/-!
# Text operations of a Python string

`str.strip`, `str.lower`, `in` and `startswith`, computed on the list of
characters so that closed calls reduce. Nothing here knows who calls it.

`lower` is exact as far as ASCII output goes: besides `A`-`Z`, the only
characters whose lowercase form contains an ASCII letter are U+212A
(KELVIN SIGN) and U+0130 (dotted capital I). Every other character is
left alone, which no comparison with an ASCII text can notice.
-/

namespace PyText

/-- `str.isspace` for one character. -/
def isSpace (c : Char) : Bool :=
  c.toNat ∈ [0x09, 0x0a, 0x0b, 0x0c, 0x0d, 0x1c, 0x1d, 0x1e, 0x1f, 0x20, 0x85, 0xa0, 0x1680,
    0x2028, 0x2029, 0x202f, 0x205f, 0x3000] || (0x2000 ≤ c.toNat && c.toNat ≤ 0x200a)

def stripChars (l : List Char) : List Char :=
  ((l.dropWhile isSpace).reverse.dropWhile isSpace).reverse

/-- `s.strip()`. -/
def strip (s : String) : String := String.ofList (stripChars s.toList)

/-- `s.lstrip()`. -/
def lstrip (s : String) : String := String.ofList (s.toList.dropWhile isSpace)

/-- `(s or "").strip()`. -/
def stripOr (s : Option String) : String := strip (s.getD "")

/-- `(s or "").strip() or None`. -/
def stripOrNone (s : Option String) : Option String :=
  if stripOr s = "" then none else some (stripOr s)

def lowerChar (c : Char) : List Char :=
  if c.toNat = 0x212a then ['k']
  else if c.toNat = 0x130 then ['i', Char.ofNat 0x307]
  else [c.toLower]

def lowerChars (l : List Char) : List Char := l.flatMap lowerChar

/-- `s.lower()`. -/
def lower (s : String) : String := String.ofList (lowerChars s.toList)

/-- `needle in hay`. -/
def isIn (needle hay : String) : Bool := decide (needle.toList <:+: hay.toList)

theorem isIn_lower_strip (p s : String) :
    isIn p (lower (strip s)) = decide (p.toList <:+: lowerChars (stripChars s.toList)) := by
  simp only [isIn, lower, strip, String.toList_ofList]

/-- `s.startswith(p)`. -/
def startsWith (s p : String) : Bool := p.toList.isPrefixOf s.toList

/-- `s[:n]`. -/
def take (n : Nat) (s : String) : String := String.ofList (s.toList.take n)

theorem not_space_of_any {w : List Char} (h : w.any isSpace = false) :
    ∀ c ∈ w, isSpace c = false := by
  intro c hc
  simpa using List.any_eq_false.mp h c hc

/-- `sep.join(parts)`. -/
def join (sep : String) (parts : List String) : String := sep.intercalate parts

/-- `int(s, 10)` on plain decimal digits with an optional sign; `none` is `ValueError`. -/
def parseDigits : List Char → Option Nat
  | [] => none
  | l => l.foldl (fun acc c => acc.bind fun n =>
      if c.isDigit then some (10 * n + (c.toNat - '0'.toNat)) else none) (some 0)

def parseInt (s : String) : Option Int :=
  match stripChars s.toList with
  | '-' :: ds => (parseDigits ds).map fun n => -(n : Int)
  | '+' :: ds => (parseDigits ds).map fun n => (n : Int)
  | ds => (parseDigits ds).map fun n => (n : Int)

/-- `repr(s)` of a text of printable characters. -/
def repr (s : String) : String :=
  let single := s.toList.contains (Char.ofNat 39)
  let double := s.toList.contains '"'
  let quote := if single && !double then '"' else Char.ofNat 39
  String.ofList ([quote] ++ (s.toList.flatMap fun c =>
    if c = quote || c = Char.ofNat 92 then [Char.ofNat 92, c] else [c]) ++ [quote])

/-- `repr` of an optional text. -/
def reprOption : Option String → String
  | none => "None"
  | some s => repr s

/-- `s.rstrip(chars)`. -/
def rstripChar (c : Char) (s : String) : String :=
  String.ofList ((s.toList.reverse.dropWhile (· = c)).reverse)

/-- `s.strip(chars)` for one character. -/
def stripChar (c : Char) (s : String) : String :=
  String.ofList ((s.toList.dropWhile (· = c)).reverse.dropWhile (· = c)).reverse

/-- `s.split(sep)` for a one-character separator. -/
def splitChar (sep : Char) : List Char → List (List Char)
  | [] => [[]]
  | c :: l =>
      match splitChar sep l with
      | [] => [[c]]
      | w :: ws => if c = sep then [] :: w :: ws else (c :: w) :: ws

theorem splitChar_of_notMem {sep : Char} {w : List Char} (h : sep ∉ w) : splitChar sep w = [w] := by
  induction w with
  | nil => rfl
  | cons c w ih =>
      rw [List.mem_cons, not_or] at h
      rw [splitChar, ih h.2]
      dsimp only
      rw [if_neg fun heq => h.1 heq.symm]

/-- The first part ends at the first separator. -/
theorem splitChar_append {sep : Char} {w : List Char} (h : sep ∉ w) (l : List Char) :
    splitChar sep (w ++ sep :: l) = w :: splitChar sep l := by
  induction w with
  | nil =>
      rw [List.nil_append, splitChar]
      split
      next hs =>
        cases l with
        | nil => cases hs
        | cons c l =>
            rw [splitChar] at hs
            split at hs
            · cases hs
            · split at hs <;> cases hs
      next hs => rw [if_pos rfl, hs]
  | cons c w ih =>
      rw [List.mem_cons, not_or] at h
      rw [List.cons_append, splitChar, ih h.2]
      dsimp only
      rw [if_neg fun heq => h.1 heq.symm]

/-- Parts without the separator come back from their join. -/
theorem splitChar_join {sep : Char} {parts : List String} (hne : parts ≠ [])
    (h : ∀ part ∈ parts, sep ∉ part.toList) :
    (splitChar sep (join (String.singleton sep) parts).toList).map String.ofList = parts := by
  induction parts with
  | nil => exact absurd rfl hne
  | cons part parts ih =>
      have hpart := h part List.mem_cons_self
      cases parts with
      | nil =>
          rw [join, String.intercalate_singleton, splitChar_of_notMem hpart, List.map_singleton,
            String.ofList_toList]
      | cons next parts =>
          have hjoin : (join (String.singleton sep) (part :: next :: parts)).toList =
              part.toList ++ sep :: (join (String.singleton sep) (next :: parts)).toList := by
            rw [join, String.intercalate_cons_cons, String.toList_append, String.toList_append,
              String.toList_singleton, List.append_assoc]
            rfl
          rw [hjoin, splitChar_append hpart, List.map_cons, String.ofList_toList,
            ih (List.cons_ne_nil _ _) fun p hp => h p (List.mem_cons_of_mem part hp)]

/-- A text without spaces at its ends stays as it is. -/
theorem stripChars_eq_self {l : List Char} (h : l.dropWhile isSpace = l)
    (hr : l.reverse.dropWhile isSpace = l.reverse) : stripChars l = l := by
  rw [stripChars, h, hr, List.reverse_reverse]

theorem dropWhile_eq_self {l : List Char} (h : ∀ c ∈ l, isSpace c = false) :
    l.dropWhile isSpace = l := by
  cases l with
  | nil => rfl
  | cons c l => rw [List.dropWhile_cons_of_neg (by simp [h c])]

theorem stripChars_of_no_space {l : List Char} (h : ∀ c ∈ l, isSpace c = false) :
    stripChars l = l :=
  stripChars_eq_self (dropWhile_eq_self h)
    (dropWhile_eq_self fun c hc => h c (List.mem_reverse.mp hc))

theorem stripChars_isPrefix (l : List Char) : stripChars l <+: l.dropWhile isSpace := by
  have hsuf := List.dropWhile_suffix isSpace (l := (l.dropWhile isSpace).reverse)
  rwa [← List.reverse_prefix, List.reverse_reverse] at hsuf

/-- What is left begins as the text without its leading spaces does. -/
theorem isSpace_head_stripChars {l t : List Char} {c : Char} (h : stripChars l = c :: t) :
    isSpace c = false := by
  obtain ⟨u, hu⟩ := stripChars_isPrefix l
  rw [h, List.cons_append] at hu
  have hne : l.dropWhile isSpace ≠ [] := by
    rw [← hu]
    exact List.cons_ne_nil _ _
  have hhead := List.head_dropWhile_not isSpace hne
  simpa only [← hu, List.head_cons] using hhead

@[simp] theorem stripChars_stripChars (l : List Char) :
    stripChars (stripChars l) = stripChars l := by
  refine stripChars_eq_self ?_ ?_
  · cases hs : stripChars l with
    | nil => rfl
    | cons c t => rw [List.dropWhile_cons_of_neg (by simp [isSpace_head_stripChars hs])]
  · rw [stripChars, List.reverse_reverse, List.dropWhile_idempotent isSpace]

/-- Stripping takes spaces only. -/
theorem mem_stripChars {l : List Char} {c : Char} (hc : c ∈ l) (h : isSpace c = false) :
    c ∈ stripChars l := by
  have hdrop : ∀ l : List Char, c ∈ l → c ∈ l.dropWhile isSpace := by
    intro l hl
    induction l with
    | nil => cases hl
    | cons a l ih =>
        rw [List.dropWhile_cons]
        split
        · rename_i ha
          rcases List.mem_cons.mp hl with rfl | hl
          · rw [h] at ha
            cases ha
          · exact ih hl
        · exact hl
  exact List.mem_reverse.mpr (hdrop _ (List.mem_reverse.mpr (hdrop l hc)))

theorem stripChars_ne_nil {l : List Char} {c : Char} (hc : c ∈ l) (h : isSpace c = false) :
    stripChars l ≠ [] := by
  intro hnil
  rw [stripChars, List.reverse_eq_nil_iff, List.dropWhile_eq_nil_iff] at hnil
  have hall : l.dropWhile isSpace = [] := by
    by_contra hne
    have hhead := List.head_dropWhile_not isSpace hne
    have hspace := hnil _ (List.mem_reverse.mpr (List.head_mem hne))
    rw [hspace] at hhead
    cases hhead
  have := List.dropWhile_eq_nil_iff.mp hall c hc
  rw [h] at this
  cases this

@[simp] theorem strip_strip (s : String) : strip (strip s) = strip s := by
  simp only [strip, String.toList_ofList, stripChars_stripChars]

/-- A text that starts with none of the characters is trimmed on the right
only. -/
theorem trim_append_eq {p : Char → Bool} {l : List Char} (t : List Char) (hne : l ≠ [])
    (h : ∀ c ∈ l, p c = false) :
    (((l ++ t).dropWhile p).reverse.dropWhile p).reverse = l ++ t.rdropWhile p := by
  have hself : ∀ {l : List Char}, (∀ c ∈ l, p c = false) → l.dropWhile p = l := by
    intro l hl
    cases l with
    | nil => rfl
    | cons c l => rw [List.dropWhile_cons_of_neg (by simp [hl c])]
  obtain ⟨c, l, rfl⟩ := List.exists_cons_of_ne_nil hne
  have hleft : ((c :: l) ++ t).dropWhile p = (c :: l) ++ t := by
    rw [List.cons_append, List.dropWhile_cons_of_neg (by simp [h c])]
  have hright : (c :: l).reverse.dropWhile p = (c :: l).reverse :=
    hself fun d hd => h d (List.mem_reverse.mp hd)
  rw [hleft, List.reverse_append, List.dropWhile_append, hright, List.rdropWhile]
  split_ifs with he
  · rw [List.isEmpty_iff.mp he, List.reverse_reverse, List.reverse_nil, List.append_nil]
  · rw [List.reverse_append, List.reverse_reverse]

theorem trim_append {p : Char → Bool} {l : List Char} (t : List Char) (hne : l ≠ [])
    (h : ∀ c ∈ l, p c = false) :
    ∃ t', t' <+: t ∧ (((l ++ t).dropWhile p).reverse.dropWhile p).reverse = l ++ t' :=
  ⟨t.rdropWhile p, List.rdropWhile_prefix p t, trim_append_eq t hne h⟩

theorem stripChars_append {l : List Char} (t : List Char) (hne : l ≠ [])
    (h : ∀ c ∈ l, isSpace c = false) : ∃ t', t' <+: t ∧ stripChars (l ++ t) = l ++ t' :=
  trim_append t hne h

/-- Stripping keeps a start without spaces, and adds none. -/
theorem prefix_stripChars_iff {w l : List Char} (hne : w ≠ []) (h : ∀ c ∈ w, isSpace c = false) :
    w <+: stripChars l ↔ w <+: l.dropWhile isSpace := by
  refine ⟨fun hw => hw.trans (stripChars_isPrefix l), fun ⟨t, ht⟩ => ?_⟩
  have hstrip : stripChars l = stripChars (l.dropWhile isSpace) := by
    rw [stripChars, stripChars, List.dropWhile_idempotent isSpace]
  obtain ⟨t', -, heq⟩ := stripChars_append t hne h
  rw [hstrip, ← ht, heq]
  exact List.prefix_append w t'

theorem stripChar_append {l : List Char} (x : Char) (t : List Char) (hne : l ≠ [])
    (h : ∀ c ∈ l, c ≠ x) :
    ∃ t', t' <+: t ∧ (stripChar x (String.ofList (l ++ t))).toList = l ++ t' := by
  obtain ⟨t', ht', heq⟩ := trim_append (p := fun c => decide (c = x)) t hne fun c hc => by
    simpa using h c hc
  refine ⟨t', ht', ?_⟩
  rw [stripChar, String.toList_ofList, String.toList_ofList]
  exact heq

/-- `re.sub` of every run of the characters of `p` by `r`; `inRun` holds
inside a run. -/
def subRuns (p : Char → Bool) (r : Char) (inRun : Bool) : List Char → List Char
  | [] => []
  | c :: l =>
      if !p c then c :: subRuns p r false l
      else if inRun then subRuns p r true l
      else r :: subRuns p r true l

theorem mem_subRuns {p : Char → Bool} {r c : Char} {b : Bool} {l : List Char}
    (h : c ∈ subRuns p r b l) : c = r ∨ (c ∈ l ∧ p c = false) := by
  induction l generalizing b with
  | nil => cases h
  | cons d l ih =>
      have hrest : ∀ {b}, c ∈ subRuns p r b l → c = r ∨ (c ∈ d :: l ∧ p c = false) := fun h =>
        (ih h).imp_right fun hc => ⟨List.mem_cons_of_mem _ hc.1, hc.2⟩
      rw [subRuns] at h
      split_ifs at h with hd hb
      · rcases List.mem_cons.mp h with rfl | h
        · exact .inr ⟨List.mem_cons_self .., by simpa using hd⟩
        · exact hrest h
      · exact hrest h
      · rcases List.mem_cons.mp h with rfl | h
        · exact .inl rfl
        · exact hrest h

/-! ## Lower case -/

def isLetter (c : Char) : Bool := 'a' ≤ c && c ≤ 'z'

/-- A character is its own lower case, or it is neither a space nor a colon
and its lower case is none and starts with a letter. -/
theorem lowerChar_cases (c : Char) :
    lowerChar c = [c] ∨ ∃ d l, lowerChar c = d :: l ∧ isLetter d = true ∧ isSpace c = false
      ∧ (∀ x ∈ d :: l, isSpace x = false ∧ x ≠ ':') ∧ c ≠ ':' := by
  have hupper : ∀ n ∈ List.range' 65 26, isLetter (Char.ofNat n).toLower = true
      ∧ isSpace (Char.ofNat n) = false
      ∧ (isSpace (Char.ofNat n).toLower = false ∧ (Char.ofNat n).toLower ≠ ':')
      ∧ Char.ofNat n ≠ ':' := by decide
  by_cases hk : c.toNat = 0x212a
  · obtain rfl : c = Char.ofNat 0x212a := by rw [← hk, Char.ofNat_toNat]
    exact .inr ⟨'k', [], rfl, by decide, by decide, by simp; decide, by decide⟩
  · by_cases hi : c.toNat = 0x130
    · obtain rfl : c = Char.ofNat 0x130 := by rw [← hi, Char.ofNat_toNat]
      exact .inr ⟨'i', [Char.ofNat 0x307], rfl, by decide, by decide, by simp; decide, by decide⟩
    · have hc : lowerChar c = [c.toLower] := by rw [lowerChar, if_neg hk, if_neg hi]
      by_cases hr : c.toNat ∈ List.range' 65 26
      · have hup := hupper _ hr
        rw [Char.ofNat_toNat] at hup
        exact .inr ⟨_, [], hc, hup.1, hup.2.1, List.forall_mem_singleton.mpr hup.2.2.1, hup.2.2.2⟩
      · have hnot : ¬ (c.val ≥ 'A'.val ∧ c.val ≤ 'Z'.val) := by
          rintro ⟨ha, hz⟩
          have hlo : 65 ≤ c.toNat := ha
          have hhi : c.toNat ≤ 90 := hz
          exact hr (List.mem_range'.mpr ⟨c.toNat - 65, by omega, by omega⟩)
        have hsame : c.toLower = c := dif_neg hnot
        exact .inl (by rw [hc, hsame])

theorem lowerChar_ne_nil (c : Char) : lowerChar c ≠ [] := by
  rcases lowerChar_cases c with h | ⟨d, l, h, -⟩ <;> simp [h]

theorem isSpace_lowerChar {c x : Char} (h : x ∈ lowerChar c) : isSpace x = isSpace c := by
  rcases lowerChar_cases c with hc | ⟨d, l, hc, -, hs, hall, -⟩
  · rw [hc, List.mem_singleton] at h
    rw [h]
  · rw [hc] at h
    rw [(hall x h).1, hs]

theorem colon_lowerChar {c x : Char} (h : x ∈ lowerChar c) :
    decide (x ≠ ':') = decide (c ≠ ':') := by
  rcases lowerChar_cases c with hc | ⟨d, l, hc, -, -, hall, hne⟩
  · rw [hc, List.mem_singleton] at h
    rw [h]
  · rw [hc] at h
    simp [(hall x h).2, hne]

section FlatMap

variable {f : Char → List Char} {p : Char → Bool}

theorem dropWhile_flatMap (hne : ∀ c, f c ≠ []) (hp : ∀ c, ∀ x ∈ f c, p x = p c)
    (l : List Char) : (l.flatMap f).dropWhile p = (l.dropWhile p).flatMap f := by
  induction l with
  | nil => rfl
  | cons c l ih =>
      rw [List.flatMap_cons]
      cases hc : p c with
      | true =>
          rw [List.dropWhile_append_of_pos fun x hx => (hp c x hx).trans hc,
            List.dropWhile_cons_of_pos hc, ih]
      | false =>
          obtain ⟨x, t, hx⟩ := List.exists_cons_of_ne_nil (hne c)
          have hpx : ¬ p x = true := by
            rw [hp c x (hx ▸ List.mem_cons_self ..), hc]
            exact Bool.false_ne_true
          rw [List.dropWhile_cons_of_neg (by simp [hc]), List.flatMap_cons, hx, List.cons_append,
            List.dropWhile_cons_of_neg hpx]

theorem takeWhile_flatMap (hne : ∀ c, f c ≠ []) (hp : ∀ c, ∀ x ∈ f c, p x = p c)
    (l : List Char) : (l.flatMap f).takeWhile p = (l.takeWhile p).flatMap f := by
  induction l with
  | nil => rfl
  | cons c l ih =>
      rw [List.flatMap_cons]
      cases hc : p c with
      | true =>
          rw [List.takeWhile_append_of_pos fun x hx => (hp c x hx).trans hc,
            List.takeWhile_cons_of_pos hc, List.flatMap_cons, ih]
      | false =>
          obtain ⟨x, t, hx⟩ := List.exists_cons_of_ne_nil (hne c)
          have hpx : ¬ p x = true := by
            rw [hp c x (hx ▸ List.mem_cons_self ..), hc]
            exact Bool.false_ne_true
          rw [List.takeWhile_cons_of_neg (by simp [hc]), List.flatMap_nil, hx, List.cons_append,
            List.takeWhile_cons_of_neg hpx]

end FlatMap

/-- Stripping and lowering commute. -/
theorem stripChars_lowerChars (l : List Char) :
    stripChars (lowerChars l) = lowerChars (stripChars l) := by
  have hrev : ∀ l : List Char, (l.flatMap lowerChar).reverse
      = l.reverse.flatMap fun c => (lowerChar c).reverse := fun l => by
    rw [List.reverse_flatMap]
    rfl
  rw [stripChars, lowerChars, dropWhile_flatMap lowerChar_ne_nil fun c x hx => isSpace_lowerChar hx,
    hrev, dropWhile_flatMap (fun c => by simpa using lowerChar_ne_nil c)
      fun c x hx => isSpace_lowerChar (List.mem_reverse.mp hx),
    List.reverse_flatMap]
  simp only [Function.comp_def, List.reverse_reverse]
  rfl

theorem takeWhile_colon_lowerChars (l : List Char) :
    (lowerChars l).takeWhile (· ≠ ':') = lowerChars (l.takeWhile (· ≠ ':')) :=
  takeWhile_flatMap lowerChar_ne_nil (fun _ _ hx => colon_lowerChar hx) l

theorem lowerChars_append (l t : List Char) : lowerChars (l ++ t) = lowerChars l ++ lowerChars t :=
  List.flatMap_append ..

theorem isDigit_of_mem_toString {n : Nat} {c : Char} (h : c ∈ (toString n).toList) :
    c.isDigit = true := by
  have hd : c ∈ Nat.toDigits 10 n := by simpa [Nat.toString_eq_repr] using h
  exact Nat.isDigit_of_mem_toDigits (by decide) (by decide) hd

theorem toString_toList_inj {m n : Nat} (h : (toString m).toList = (toString n).toList) :
    m = n := by
  have hd : Nat.toDigits 10 m = Nat.toDigits 10 n := by simpa [Nat.toString_eq_repr] using h
  calc m = Nat.ofDigitChars 10 (Nat.toDigits 10 m) 0 := Nat.ofDigitChars_ten_toDigits.symm
    _ = Nat.ofDigitChars 10 (Nat.toDigits 10 n) 0 := by rw [hd]
    _ = n := Nat.ofDigitChars_ten_toDigits

theorem dash_not_mem_toString (n : Nat) : '-' ∉ (toString n).toList := by
  intro h
  have hd := isDigit_of_mem_toString h
  revert hd
  decide

theorem foldl_digits {l : List Char} (h : ∀ c ∈ l, c.isDigit = true) (n : Nat) :
    l.foldl (fun acc c => acc.bind fun n =>
      if c.isDigit then some (10 * n + (c.toNat - '0'.toNat)) else none) (some n)
      = some (Nat.ofDigitChars 10 l n) := by
  induction l generalizing n with
  | nil => rfl
  | cons c l ih =>
      have hc : c.isDigit = true := h c List.mem_cons_self
      rw [List.foldl_cons, Option.bind_some, if_pos hc, ih fun c hc => h c (List.mem_cons_of_mem _ hc)]
      rfl

theorem parseDigits_toString (n : Nat) : parseDigits (toString n).toList = some n := by
  have hfold := foldl_digits (l := (toString n).toList) (fun _ => isDigit_of_mem_toString) 0
  have hdigits : (toString n).toList = Nat.toDigits 10 n := by simp [Nat.toString_eq_repr]
  have hvalue : Nat.ofDigitChars 10 (toString n).toList 0 = n := by
    rw [hdigits]
    exact Nat.ofDigitChars_ten_toDigits
  rw [hvalue] at hfold
  cases hl : (toString n).toList with
  | nil =>
      rw [hdigits] at hl
      exact absurd hl Nat.toDigits_ne_nil
  | cons c l =>
      rw [hl] at hfold
      exact hfold

theorem isSpace_of_isDigit {c : Char} (h : c.isDigit = true) : isSpace c = false := by
  have hrange : 48 ≤ c.toNat ∧ c.toNat ≤ 57 := by
    simp only [Char.isDigit, Bool.and_eq_true, decide_eq_true_eq, ge_iff_le,
      UInt32.le_iff_toNat_le] at h
    exact h
  simp only [isSpace, List.mem_cons, List.not_mem_nil, or_false, Bool.or_eq_false_iff,
    decide_eq_false_iff_not, Bool.and_eq_false_iff]
  omega

theorem strip_toString (n : Nat) : strip (toString n) = toString n := by
  have hself : stripChars (toString n).toList = (toString n).toList :=
    stripChars_of_no_space fun c hc => isSpace_of_isDigit (isDigit_of_mem_toString hc)
  rw [strip, hself, String.ofList_toList]

theorem toString_ne_empty (n : Nat) : toString n ≠ "" := by
  intro h
  have hparse := parseDigits_toString n
  rw [h] at hparse
  cases hparse

theorem parseInt_toString (v : Int) : parseInt (toString v) = some v := by
  cases v with
  | ofNat n =>
      have hdigit : ∀ c ∈ (toString n).toList, c.isDigit = true := fun _ => isDigit_of_mem_toString
      have hstrip : stripChars (toString n).toList = (toString n).toList :=
        stripChars_of_no_space fun c hc => isSpace_of_isDigit (hdigit c hc)
      have hparse := parseDigits_toString n
      show parseInt (toString n) = some (n : Int)
      unfold parseInt
      rw [hstrip]
      split
      · rename_i hl
        have hd := hdigit '-' (hl ▸ List.mem_cons_self)
        exact absurd hd (by decide)
      · rename_i hl
        have hd := hdigit '+' (hl ▸ List.mem_cons_self)
        exact absurd hd (by decide)
      · rw [hparse]
        rfl
  | negSucc n =>
      have htext : (toString (Int.negSucc n)).toList = '-' :: (toString (n + 1)).toList := by
        show ("-" ++ toString (n + 1)).toList = _
        rw [String.toList_append]
        rfl
      have hdigit : ∀ c ∈ (toString (n + 1)).toList, c.isDigit = true :=
        fun _ => isDigit_of_mem_toString
      have hstrip : stripChars ('-' :: (toString (n + 1)).toList)
          = '-' :: (toString (n + 1)).toList := by
        refine stripChars_of_no_space fun c hc => ?_
        rcases List.mem_cons.mp hc with rfl | hc
        · decide
        · exact isSpace_of_isDigit (hdigit c hc)
      unfold parseInt
      rw [htext, hstrip]
      show (parseDigits (toString (n + 1)).toList).map (fun n => -(n : Int)) = _
      rw [parseDigits_toString]
      rfl
example : strip "  a b " = "a b" := by decide
example : isIn "ssm" (lower "xSSMy") = true := by decide
example : parseInt " 42 " = some 42 := by decide

end PyText
