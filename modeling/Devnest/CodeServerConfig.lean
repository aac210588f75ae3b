import Devnest.PyText
import Mathlib.Data.List.DropRight

/-!
# The code-server configuration

`ensure_code_server_bind_auth_proxy_config` over the text of a `config.yaml` that is there. Its
`re.subn` is a scan over the text: at every line start the pattern matches in one way only, since
what `\s*` reads is no letter, so `pieces` cuts the text into matches and lines.

`pieces_rewriteAll` says that the rewritten text is cut at the same places; a second call therefore
changes nothing. What the settings of the file are after the call depends on the lines the
pattern leaves alone.
-/

namespace Devnest

open PyText

/-! ## Reading the text -/

/-- What `\w` reads. -/
structure WordChars where
  isWord : Char → Bool
  ascii : ∀ c, c.toNat < 128 → isWord c = (c.isAlphanum || c == '_')
  not_space : ∀ c, isSpace c = true → isWord c = false

/-- A character of a pattern under `re.IGNORECASE`; three letters outside ASCII count. -/
def sameLetter (p c : Char) : Bool :=
  c.toLower == p || (p == 's' && c.toNat == 0x17f) ||
    (p == 'i' && (c.toNat == 0x130 || c.toNat == 0x131))

/-- What comes after the word. -/
def afterWord (same : Char → Char → Bool) : List Char → List Char → Option (List Char)
  | [], cs => some cs
  | _ :: _, [] => none
  | p :: word, c :: cs => if same p c then afterWord same word cs else none

/-- `\b` after a letter. -/
def WordChars.boundary (w : WordChars) (cs : List Char) : Bool := !cs.head?.any w.isWord

/-- What comes after `(none|password)\b`. -/
def afterMode (w : WordChars) (cs : List Char) : Option (List Char) :=
  ((afterWord sameLetter "none".toList cs).filter w.boundary).or
    ((afterWord sameLetter "password".toList cs).filter w.boundary)

/-- What `.*$` leaves. -/
def restOfText (cs : List Char) : List Char := cs.dropWhile (· ≠ '\n')

/-- `^(\s*)auth:\s*(none|password)\b.*$` at a line start: group 1, and the text after the match. -/
def authEntry (w : WordChars) (cs : List Char) : Option (List Char × List Char) := do
  let rest ← afterWord sameLetter "auth:".toList (cs.dropWhile isSpace)
  let rest ← afterMode w (rest.dropWhile isSpace)
  return (cs.takeWhile isSpace, restOfText rest)

/-- `^\s*trusted-origins\s*:` at a line start. -/
def trustedOriginsAt (cs : List Char) : Bool :=
  (afterWord sameLetter "trusted-origins".toList (cs.dropWhile isSpace)).any fun rest =>
    (rest.dropWhile isSpace).head? = some ':'

/-- `re.search` of a pattern that begins with `^`. -/
def searchLines (found : List Char → Bool) (lineStart : Bool) : List Char → Bool
  | [] => lineStart && found []
  | c :: cs => (lineStart && found (c :: cs)) || searchLines found (c = '\n') cs

/-- A match with its group 1, or a line that begins none. -/
inductive Piece where
  | entry (indent matched : List Char)
  | line (text : List Char)

def Piece.isEntry : Piece → Bool
  | .entry _ _ => true
  | .line _ => false

/-- The piece at a line start, and the text after it. -/
def firstPiece (w : WordChars) (cs : List Char) : Piece × List Char :=
  match authEntry w cs with
  | some (indent, rest) => (.entry indent (cs.take (cs.length - rest.length)), rest)
  | none => (.line (cs.takeWhile (· ≠ '\n')), restOfText cs)

theorem restOfText_suffix (cs : List Char) : restOfText cs <:+ cs := List.dropWhile_suffix _

theorem afterWord_suffix {same : Char → Char → Bool} {word cs rest : List Char}
    (h : afterWord same word cs = some rest) : rest <:+ cs := by
  induction word generalizing cs with
  | nil =>
      cases h
      exact List.suffix_refl _
  | cons p word ih =>
      cases cs with
      | nil => cases h
      | cons c cs =>
          rw [afterWord] at h
          split at h
          · exact (ih h).trans (List.suffix_cons c cs)
          · cases h

theorem afterMode_suffix {w : WordChars} {cs rest : List Char} (h : afterMode w cs = some rest) :
    rest <:+ cs := by
  rw [afterMode, Option.or_eq_some_iff] at h
  rcases h with h | ⟨-, h⟩
  · exact afterWord_suffix (Option.filter_eq_some_iff.mp h).1
  · exact afterWord_suffix (Option.filter_eq_some_iff.mp h).1

/-- A match reads the indentation, `auth:`, spaces, the mode and the rest of the line. -/
theorem authEntry_eq_some {w : WordChars} {cs indent rest : List Char} :
    authEntry w cs = some (indent, rest) ↔
      ∃ value tail, afterWord sameLetter "auth:".toList (cs.dropWhile isSpace) = some value ∧
        afterMode w (value.dropWhile isSpace) = some tail ∧ indent = cs.takeWhile isSpace ∧
          rest = restOfText tail := by
  unfold authEntry
  cases afterWord sameLetter "auth:".toList (cs.dropWhile isSpace) with
  | none => simp
  | some value =>
      cases hmode : afterMode w (value.dropWhile isSpace) with
      | none => simp [hmode]
      | some tail => simp [hmode, eq_comm]

theorem firstPiece_suffix (w : WordChars) (cs : List Char) : (firstPiece w cs).2 <:+ cs := by
  unfold firstPiece
  split
  next indent rest h =>
    obtain ⟨value, tail, hauth, hmode, -, rfl⟩ := authEntry_eq_some.mp h
    exact ((restOfText_suffix tail).trans (afterMode_suffix hmode)).trans
      ((List.dropWhile_suffix _).trans ((afterWord_suffix hauth).trans (List.dropWhile_suffix _)))
  next => exact restOfText_suffix cs

/-- The matches are found from left to right, and none begins inside another. -/
def pieces (w : WordChars) (cs : List Char) : List Piece :=
  match _h : (firstPiece w cs).2 with
  | [] => [(firstPiece w cs).1]
  | _ :: rest => (firstPiece w cs).1 :: pieces w rest
termination_by cs.length
decreasing_by
  have hle := (firstPiece_suffix w cs).length_le
  rw [_h, List.length_cons] at hle
  omega

/-- `\1auth: {mode}` for a match. -/
def Piece.rewritten (mode : String) : Piece → List Char
  | .entry indent _ => indent ++ "auth: ".toList ++ mode.toList
  | .line text => text

def render (mode : String) : List Piece → List Char
  | [] => []
  | [piece] => piece.rewritten mode
  | piece :: next :: rest => piece.rewritten mode ++ '\n' :: render mode (next :: rest)

/-! ## The call -/

/-- `open(path).read()` turns every line break into one line feed. -/
def universalNewlines : List Char → List Char
  | [] => []
  | '\r' :: '\n' :: cs => '\n' :: universalNewlines cs
  | c :: cs => (if c = '\r' then '\n' else c) :: universalNewlines cs

def effectiveMode (authMode : String) : String :=
  let mode := lower (strip (if authMode = "" then "none" else authMode))
  if mode = "none" ∨ mode = "password" then mode else "none"

def patchAuth (w : WordChars) (mode : String) (content : List Char) : List Char :=
  if (pieces w content).any Piece.isEntry then render mode (pieces w content)
  else "auth: ".toList ++ mode.toList ++ '\n' :: content

def trustedOriginsBlock : List Char := "\n\ntrusted-origins:\n  - '*'\n".toList

def patchTrustedOrigins (content : List Char) : List Char :=
  if searchLines trustedOriginsAt true content then content
  else content.rdropWhile isSpace ++ trustedOriginsBlock

/-- The text of a file that was not there. -/
def minimal (mode : String) : String :=
  "# DevNest: code-server auth is managed by DEVNEST_WORKSPACE_AUTH_MODE; trusted origins for " ++
    "reverse-proxy access.\nauth: " ++ mode ++ "\ntrusted-origins:\n  - '*'\n"

/-- `ensure_code_server_bind_auth_proxy_config` on the text of the file, if it is there. -/
def ensureCodeServerBindAuthProxyConfig (w : WordChars) (authMode : String) :
    Option String → String
  | none => minimal (effectiveMode authMode)
  | some text =>
      String.ofList (patchTrustedOrigins
        (patchAuth w (effectiveMode authMode) (universalNewlines text.toList)))

/-! ## Settings of the file -/

def authKeys : List (List Char) := ["auth".toList, "\"auth\"".toList, "'auth'".toList]

/-- A comment begins at a `#` after a space. -/
def dropComment (afterSpace : Bool) : List Char → List Char
  | [] => []
  | c :: cs => if c = '#' ∧ afterSpace then [] else c :: dropComment (isSpace c) cs

def unquote (v : List Char) : List Char :=
  match v with
  | [] => []
  | q :: cs =>
      if (q = '"' ∨ q = '\'') ∧ cs.getLast? = some q then cs.dropLast else v

/-- The value of a line that starts with the key `auth`, without its quotes and comment. -/
def authValue (line : List Char) : Option (List Char) :=
  (authKeys.findSome? fun key => afterWord (· == ·) key line).bind fun rest =>
    match rest.dropWhile isSpace with
    | ':' :: v => some (unquote (stripChars (dropComment false v)))
    | _ => none

def authValues (text : List Char) : List (List Char) := (splitChar '\n' text).filterMap authValue

/-- The settings of the file after the call, and a second call. -/
structure AuthModeWins (w : WordChars) (authMode text : String) : Prop where
  present : authValues (ensureCodeServerBindAuthProxyConfig w authMode (some text)).toList ≠ []
  agree : ∀ v ∈ authValues (ensureCodeServerBindAuthProxyConfig w authMode (some text)).toList,
    v = (effectiveMode authMode).toList
  again : ensureCodeServerBindAuthProxyConfig w authMode
      (some (ensureCodeServerBindAuthProxyConfig w authMode (some text))) =
    ensureCodeServerBindAuthProxyConfig w authMode (some text)

/-- The `auth:` of a match begins its line. -/
def atColumnZero (indent : List Char) : Prop := indent = [] ∨ indent.getLast? = some '\n'

instance (indent : List Char) : Decidable (atColumnZero indent) :=
  inferInstanceAs (Decidable (_ ∨ _))

/-- The lines that the pattern leaves alone. -/
def keptLines (w : WordChars) (content : List Char) : List (List Char) :=
  (pieces w content).filterMap fun piece =>
    match piece with
    | .entry _ _ => none
    | .line text => some text

def indents (w : WordChars) (content : List Char) : List (List Char) :=
  (pieces w content).filterMap fun piece =>
    match piece with
    | .entry indent _ => some indent
    | .line _ => none

/-- Every kept line with the key `auth` has the mode already, and one of them is there if the
pattern matches under some indentation only. -/
def KeepsOnlyMode (w : WordChars) (mode : String) (content : List Char) : Prop :=
  (∀ l ∈ keptLines w content, ∀ v, authValue l = some v → v = mode.toList) ∧
    (indents w content ≠ [] → (∃ indent ∈ indents w content, atColumnZero indent) ∨
      ∃ l ∈ keptLines w content, (authValue l).isSome)

/-! ## Matches and what comes after them -/

variable {w : WordChars} {same : Char → Char → Bool} {word cs y z z' : List Char}

/-- The text is at its end, or goes on with a space. -/
def Breaks (z : List Char) : Prop := ∀ c ∈ z.head?, isSpace c = true

theorem breaks_nil : Breaks [] := by
  intro c hc
  cases hc

theorem breaks_newline (cs : List Char) : Breaks ('\n' :: cs) := by
  intro c hc
  cases hc
  decide

theorem Breaks.of_all (h : ∀ c ∈ z, isSpace c = true) : Breaks z :=
  fun c hc => h c (List.mem_of_mem_head? hc)

/-- No character of the word is taken for a space. -/
def SpaceFree (same : Char → Char → Bool) (word : List Char) : Prop :=
  ∀ p ∈ word, ∀ c, isSpace c = true → same p c = false

theorem sameLetter_space {p c : Char} (hp : isSpace p = false) (hc : isSpace c = true) :
    sameLetter p c = false := by
  have hlower : lowerChar c = [c.toLower] := by
    unfold lowerChar
    rw [if_neg, if_neg]
    · intro h
      rw [isSpace, h] at hc
      exact absurd hc (by decide)
    · intro h
      rw [isSpace, h] at hc
      exact absurd hc (by decide)
  have hmem : c.toLower ∈ lowerChar c := by
    rw [hlower]
    exact List.mem_cons_self
  have hspace := isSpace_lowerChar hmem
  have hne : c.toLower ≠ p := by
    rintro rfl
    rw [hp, hc] at hspace
    cases hspace
  have hnat : ∀ n, isSpace (Char.ofNat n) = false → c.toNat ≠ n := by
    rintro _ h rfl
    rw [Char.ofNat_toNat] at h
    rw [h] at hc
    cases hc
  simp [sameLetter, hne, hnat 0x17f (by decide), hnat 0x130 (by decide), hnat 0x131 (by decide)]

theorem spaceFree_sameLetter (h : ∀ p ∈ word, isSpace p = false) : SpaceFree sameLetter word :=
  fun p hp _ hc => sameLetter_space (h p hp) hc

theorem spaceFree_eq (h : ∀ p ∈ word, isSpace p = false) : SpaceFree (· == ·) word := by
  intro p hp c hc
  have hne : p ≠ c := by
    rintro rfl
    rw [h p hp] at hc
    cases hc
  exact beq_false_of_ne hne

/-- A word is found before the break or not at all. -/
theorem afterWord_append (hword : SpaceFree same word) (hz : Breaks z) (y : List Char) :
    afterWord same word (y ++ z) = (afterWord same word y).map (· ++ z) := by
  induction word generalizing y with
  | nil => rfl
  | cons p word ih =>
      cases y with
      | nil =>
          cases z with
          | nil => rfl
          | cons c z =>
              simp [afterWord, hword p List.mem_cons_self c (hz c rfl)]
      | cons c y =>
          rw [List.cons_append, afterWord, afterWord]
          split
          · exact ih (fun q hq => hword q (List.mem_cons_of_mem p hq)) y
          · rfl

theorem boundary_append (hz : Breaks z) (y : List Char) : w.boundary (y ++ z) = w.boundary y := by
  cases y with
  | cons c y => rfl
  | nil =>
      cases z with
      | nil => rfl
      | cons c z =>
          rw [List.nil_append, WordChars.boundary, List.head?_cons, Option.any_some,
            w.not_space c (hz c rfl)]
          rfl

theorem afterMode_append (hz : Breaks z) (y : List Char) :
    afterMode w (y ++ z) = (afterMode w y).map (· ++ z) := by
  have hpart : ∀ word : List Char, (∀ p ∈ word, isSpace p = false) →
      (afterWord sameLetter word (y ++ z)).filter w.boundary =
        ((afterWord sameLetter word y).filter w.boundary).map (· ++ z) := by
    intro word hword
    rw [afterWord_append (spaceFree_sameLetter hword) hz]
    cases afterWord sameLetter word y with
    | none => rfl
    | some rest =>
        rw [Option.map_some, Option.filter_some, Option.filter_some, boundary_append hz]
        split
        · rfl
        · rfl
  unfold afterMode
  rw [hpart _ (not_space_of_any (by decide)), hpart _ (not_space_of_any (by decide)),
    Option.map_or]

/-- The text has something other than spaces. -/
def Inked (cs : List Char) : Prop := cs.dropWhile isSpace ≠ []

theorem not_inked_iff : ¬ Inked cs ↔ ∀ c ∈ cs, isSpace c = true := by
  rw [Inked, not_not, List.dropWhile_eq_nil_iff]

theorem dropSpaces_append (hy : Inked y) (z : List Char) :
    (y ++ z).dropWhile isSpace = y.dropWhile isSpace ++ z := by
  rw [List.dropWhile_append, if_neg]
  rwa [List.isEmpty_iff]

theorem dropSpaces_append_blank (hy : ¬ Inked y) (z : List Char) :
    (y ++ z).dropWhile isSpace = z.dropWhile isSpace := by
  rw [List.dropWhile_append, if_pos]
  rw [List.isEmpty_iff]
  exact not_not.mp hy

/-- Of the text that follows `auth:`, whether the pattern goes on. -/
def takesMode (w : WordChars) (cs : List Char) : Bool :=
  (afterMode w (cs.dropWhile isSpace)).isSome

theorem takesMode_append (hy : Inked y) (hz : Breaks z) : takesMode w (y ++ z) = takesMode w y := by
  rw [takesMode, takesMode, dropSpaces_append hy, afterMode_append hz, Option.isSome_map]

theorem takesMode_append_blank (hy : ¬ Inked y) (z : List Char) :
    takesMode w (y ++ z) = takesMode w z := by
  rw [takesMode, takesMode, dropSpaces_append_blank hy]

/-- A match in a text with a break: the mode stands before the break or after it. -/
theorem authEntry_append (hy : Inked y) (hz : Breaks z) :
    authEntry w (y ++ z) =
      (afterWord sameLetter "auth:".toList (y.dropWhile isSpace)).bind fun value =>
        if value.dropWhile isSpace = [] then
          (afterMode w (z.dropWhile isSpace)).map fun tail =>
            (y.takeWhile isSpace, restOfText tail)
        else
          (afterMode w (value.dropWhile isSpace)).map fun tail =>
            (y.takeWhile isSpace, restOfText (tail ++ z)) := by
  have hindent : (y ++ z).takeWhile isSpace = y.takeWhile isSpace := by
    rw [List.takeWhile_append, if_neg]
    intro hlen
    have htake := List.takeWhile_append_dropWhile (p := isSpace) (l := y)
    refine hy (List.eq_nil_of_length_eq_zero ?_)
    have := congrArg List.length htake
    rw [List.length_append] at this
    omega
  unfold authEntry
  have hword := spaceFree_sameLetter (not_space_of_any (w := "auth:".toList) (by decide))
  rw [dropSpaces_append hy, hindent, afterWord_append hword hz]
  cases afterWord sameLetter "auth:".toList (y.dropWhile isSpace) with
  | none => rfl
  | some value =>
      by_cases hvalue : Inked value
      · simp only [Option.map_some, Option.bind_eq_bind, Option.bind_some,
          dropSpaces_append hvalue, afterMode_append hz, if_neg hvalue]
        cases afterMode w (value.dropWhile isSpace) with
        | none => rfl
        | some tail => rfl
      · simp only [Option.map_some, Option.bind_eq_bind, Option.bind_some,
          dropSpaces_append_blank hvalue, if_pos (not_not.mp hvalue)]
        cases afterMode w (z.dropWhile isSpace) with
        | none => rfl
        | some tail => rfl

theorem authEntry_isSome_append (hy : Inked y) (hz : Breaks z) (hz' : Breaks z')
    (hmode : takesMode w z = takesMode w z') :
    (authEntry w (y ++ z)).isSome = (authEntry w (y ++ z')).isSome := by
  rw [authEntry_append hy hz, authEntry_append hy hz']
  cases afterWord sameLetter "auth:".toList (y.dropWhile isSpace) with
  | none => rfl
  | some value =>
      rw [Option.bind_some, Option.bind_some]
      split
      · rw [Option.isSome_map, Option.isSome_map]
        exact hmode
      · rw [Option.isSome_map, Option.isSome_map]

theorem authEntry_append_blank (hy : ¬ Inked y) (z : List Char) :
    (authEntry w (y ++ z)).isSome = (authEntry w z).isSome := by
  unfold authEntry
  rw [dropSpaces_append_blank hy]
  cases afterWord sameLetter "auth:".toList (z.dropWhile isSpace) with
  | none => rfl
  | some value =>
      dsimp only [Option.bind_eq_bind, Option.bind_some]
      cases afterMode w (value.dropWhile isSpace) with
      | none => rfl
      | some tail => rfl

/-- A match whose mode stands before the break, with another text after the break. -/
theorem authEntry_append_of_append {indent rest : List Char} (hy : Inked y) (hz : Breaks z)
    (hz' : Breaks z') (hmode : takesMode w z = false)
    (h : authEntry w (y ++ z) = some (indent, rest)) :
    ∃ tail, tail <:+ y ∧ rest = restOfText (tail ++ z) ∧
      authEntry w (y ++ z') = some (indent, restOfText (tail ++ z')) := by
  rw [authEntry_append hy hz] at h
  rw [authEntry_append hy hz']
  cases hauth : afterWord sameLetter "auth:".toList (y.dropWhile isSpace) with
  | none =>
      rw [hauth] at h
      cases h
  | some value =>
      rw [hauth, Option.bind_some] at h
      rw [Option.bind_some]
      split at h
      · rw [takesMode, Option.isSome_eq_false_iff, Option.isNone_iff_eq_none] at hmode
        rw [hmode] at h
        cases h
      next hvalue =>
        rw [if_neg hvalue]
        obtain ⟨tail, htail, heq⟩ := Option.map_eq_some_iff.mp h
        cases heq
        refine ⟨tail, ?_, rfl, by rw [htail]; rfl⟩
        exact ((afterMode_suffix htail).trans (List.dropWhile_suffix _)).trans
          ((afterWord_suffix hauth).trans (List.dropWhile_suffix _))

/-! ## Cutting a rewritten text -/

theorem restOfText_cases (cs : List Char) :
    restOfText cs = [] ∨ ∃ rest, restOfText cs = '\n' :: rest := by
  cases h : restOfText cs with
  | nil => exact .inl rfl
  | cons c rest =>
      have hc := List.head?_dropWhile_not (fun c : Char => decide (c ≠ '\n')) cs
      rw [show cs.dropWhile _ = c :: rest from h, List.head?_cons] at hc
      exact .inr ⟨rest, by rw [not_not.mp (of_decide_eq_false hc)]⟩

theorem restOfText_append {l : List Char} (hl : '\n' ∉ l) (cs : List Char) :
    restOfText (l ++ cs) = restOfText cs := by
  refine List.dropWhile_append_of_pos fun c hc => decide_eq_true ?_
  rintro rfl
  exact hl hc

/-- The end of a line. -/
def LineEnd (z : List Char) : Prop := z = [] ∨ ∃ rest, z = '\n' :: rest

theorem LineEnd.breaks (hz : LineEnd z) : Breaks z := by
  rcases hz with rfl | ⟨rest, rfl⟩
  · exact breaks_nil
  · exact breaks_newline rest

theorem LineEnd.restOfText (hz : LineEnd z) : restOfText z = z := by
  rcases hz with rfl | ⟨rest, rfl⟩
  · rfl
  · rfl

/-- What a match is rewritten to, after its indentation. -/
def authLine (mode : String) : List Char := "auth: ".toList ++ mode.toList

variable {mode : String}

theorem authEntry_authLine (hmode : mode = "none" ∨ mode = "password") {indent : List Char}
    (hindent : ∀ c ∈ indent, isSpace c = true) (hz : LineEnd z) :
    authEntry w (indent ++ authLine mode ++ z) = some (indent, z) := by
  have hbound : w.boundary z = true := by
    rw [← List.nil_append z, boundary_append hz.breaks]
    rfl
  rw [authEntry_eq_some]
  rw [List.append_assoc, List.dropWhile_append_of_pos hindent, List.takeWhile_append_of_pos hindent]
  rcases hmode with rfl | rfl
  · refine ⟨" none".toList ++ z, z, rfl, ?_, ?_, hz.restOfText.symm⟩
    · show afterMode w ("none".toList ++ z) = some z
      have hafter : afterWord sameLetter "none".toList ("none".toList ++ z) = some z := rfl
      rw [afterMode, hafter, Option.filter_some, if_pos hbound]
      rfl
    · exact (List.append_nil indent).symm
  · refine ⟨" password".toList ++ z, z, rfl, ?_, ?_, hz.restOfText.symm⟩
    · show afterMode w ("password".toList ++ z) = some z
      have hafter : afterWord sameLetter "password".toList ("password".toList ++ z) = some z := rfl
      have hnone : afterWord sameLetter "none".toList ("password".toList ++ z) = none := rfl
      rw [afterMode, hafter, hnone, Option.filter_some, if_pos hbound]
      rfl
    · exact (List.append_nil indent).symm

/-- A text is cut at its first line end. -/
theorem takeLine_append {l : List Char} (hl : '\n' ∉ l) (hz : LineEnd z) :
    (l ++ z).takeWhile (· ≠ '\n') = l := by
  have hall : ∀ c ∈ l, decide (c ≠ '\n') = true := by
    intro c hc
    refine decide_eq_true ?_
    rintro rfl
    exact hl hc
  rw [List.takeWhile_append_of_pos hall]
  rcases hz with rfl | ⟨rest, rfl⟩
  · exact List.append_nil l
  · exact List.append_nil l

theorem newline_notMem_takeLine (cs : List Char) : '\n' ∉ cs.takeWhile (· ≠ '\n') := by
  intro h
  have := List.mem_takeWhile_imp h
  exact absurd rfl (of_decide_eq_true this)

theorem lineEnd_restOfText (cs : List Char) : LineEnd (restOfText cs) := restOfText_cases cs

theorem takeLine_restOfText (cs : List Char) :
    cs.takeWhile (· ≠ '\n') ++ restOfText cs = cs := List.takeWhile_append_dropWhile

theorem authEntry_lineEnd {indent rest : List Char} (h : authEntry w cs = some (indent, rest)) :
    LineEnd rest := by
  obtain ⟨value, tail, -, -, -, rfl⟩ := authEntry_eq_some.mp h
  exact lineEnd_restOfText tail

theorem firstPiece_entry {indent rest : List Char} (h : authEntry w cs = some (indent, rest)) :
    firstPiece w cs = (.entry indent (cs.take (cs.length - rest.length)), rest) := by
  rw [firstPiece, h]

theorem firstPiece_line (h : authEntry w cs = none) :
    firstPiece w cs = (.line (cs.takeWhile (· ≠ '\n')), restOfText cs) := by
  rw [firstPiece, h]

theorem firstPiece_lineEnd (w : WordChars) (cs : List Char) : LineEnd (firstPiece w cs).2 := by
  cases h : authEntry w cs with
  | none =>
      rw [firstPiece_line h]
      exact lineEnd_restOfText cs
  | some found =>
      rw [firstPiece_entry h]
      exact authEntry_lineEnd h

/-- The pieces of the lines after a piece. -/
def morePieces (w : WordChars) : List Char → List Piece
  | [] => []
  | _ :: cs => pieces w cs

theorem pieces_eq (w : WordChars) (cs : List Char) :
    pieces w cs = (firstPiece w cs).1 :: morePieces w (firstPiece w cs).2 := by
  rw [pieces]
  split
  next heq => rw [heq, morePieces]
  next heq => rw [heq, morePieces]

/-- One piece after the other. -/
theorem pieces_induction (w : WordChars) {P : List Char → Prop}
    (step : ∀ cs, (∀ rest, (firstPiece w cs).2 = '\n' :: rest → P rest) → P cs) (cs : List Char) :
    P cs := by
  induction hn : cs.length using Nat.strong_induction_on generalizing cs with
  | _ n ih =>
      refine step cs fun rest hrest => ih rest.length ?_ rest rfl
      have hle := (firstPiece_suffix w cs).length_le
      rw [hrest, List.length_cons] at hle
      omega

def rewriteAll (w : WordChars) (mode : String) (cs : List Char) : List Char :=
  render mode (pieces w cs)

def rewriteMore (w : WordChars) (mode : String) : List Char → List Char
  | [] => []
  | c :: cs => c :: rewriteAll w mode cs

theorem rewriteAll_eq (w : WordChars) (mode : String) (cs : List Char) :
    rewriteAll w mode cs =
      (firstPiece w cs).1.rewritten mode ++ rewriteMore w mode (firstPiece w cs).2 := by
  rw [rewriteAll, pieces_eq]
  rcases firstPiece_lineEnd w cs with hz | ⟨rest, hz⟩
  · rw [hz, morePieces, rewriteMore, render, List.append_nil]
  · rw [hz, morePieces, rewriteMore, rewriteAll, pieces_eq, render]

theorem lineEnd_rewriteMore (hz : LineEnd z) : LineEnd (rewriteMore w mode z) := by
  rcases hz with rfl | ⟨rest, rfl⟩
  · exact .inl rfl
  · exact .inr ⟨rewriteAll w mode rest, rfl⟩

/-- The rewritten text from a match on. -/
theorem rewriteAll_entry {indent rest : List Char} (h : authEntry w cs = some (indent, rest)) :
    rewriteAll w mode cs = indent ++ authLine mode ++ rewriteMore w mode rest := by
  rw [rewriteAll_eq, firstPiece_entry h, Piece.rewritten, authLine, List.append_assoc indent]

theorem rewriteAll_line (h : authEntry w cs = none) :
    rewriteAll w mode cs =
      cs.takeWhile (· ≠ '\n') ++ rewriteMore w mode (restOfText cs) := by
  rw [rewriteAll_eq, firstPiece_line h, Piece.rewritten]

/-- What begins with `auth:` begins with no mode. -/
theorem takesMode_of_entry (h : (authEntry w cs).isSome = true) : takesMode w cs = false := by
  obtain ⟨⟨indent, rest⟩, h⟩ := Option.isSome_iff_exists.mp h
  obtain ⟨value, tail, hauth, -⟩ := authEntry_eq_some.mp h
  rw [takesMode]
  cases hcs : cs.dropWhile isSpace with
  | nil => rfl
  | cons c cs =>
      rw [hcs] at hauth
      have ha : sameLetter 'a' c = true := by
        by_contra hne
        rw [show "auth:".toList = 'a' :: "uth:".toList from rfl, afterWord, if_neg hne] at hauth
        cases hauth
      have hlower : c.toLower = 'a' := by simpa [sameLetter] using ha
      have hn : sameLetter 'n' c = false := by simp [sameLetter, hlower]
      have hp : sameLetter 'p' c = false := by simp [sameLetter, hlower]
      rw [afterMode, show "none".toList = 'n' :: "one".toList from rfl,
        show "password".toList = 'p' :: "assword".toList from rfl, afterWord, afterWord, hn, hp]
      rfl

theorem takesMode_newline (cs : List Char) : takesMode w ('\n' :: cs) = takesMode w cs := rfl

theorem authEntry_newline (cs : List Char) :
    (authEntry w ('\n' :: cs)).isSome = (authEntry w cs).isSome :=
  authEntry_append_blank (y := ['\n']) (fun h => h rfl) cs

theorem indent_blank {indent rest : List Char} (h : authEntry w cs = some (indent, rest)) :
    ∀ c ∈ indent, isSpace c = true := by
  obtain ⟨value, tail, -, -, rfl, -⟩ := authEntry_eq_some.mp h
  exact fun c hc => List.mem_takeWhile_imp hc

section Rewritten

variable (hmode : mode = "none" ∨ mode = "password")
include hmode

theorem authEntry_rewritten {indent rest : List Char} (h : authEntry w cs = some (indent, rest)) :
    authEntry w (rewriteAll w mode cs) = some (indent, rewriteMore w mode rest) := by
  rw [rewriteAll_entry h]
  exact authEntry_authLine hmode (indent_blank h) (lineEnd_rewriteMore (authEntry_lineEnd h))

theorem takesMode_rewriteAll (cs : List Char) :
    takesMode w (rewriteAll w mode cs) = takesMode w cs := by
  induction cs using pieces_induction w with
  | step cs ih =>
      cases h : authEntry w cs with
      | some found =>
          have hsome : (authEntry w cs).isSome = true := by
            rw [h]
            rfl
          rw [takesMode_of_entry hsome,
            takesMode_of_entry (by rw [authEntry_rewritten hmode h]; rfl)]
      | none =>
          rw [firstPiece_line h] at ih
          rw [rewriteAll_line h]
          conv_rhs => rw [← takeLine_restOfText cs]
          have hz := lineEnd_restOfText cs
          by_cases hl : Inked (cs.takeWhile (· ≠ '\n'))
          · rw [takesMode_append hl (lineEnd_rewriteMore hz).breaks, takesMode_append hl hz.breaks]
          · rw [takesMode_append_blank hl, takesMode_append_blank hl]
            rcases hz with hz | ⟨rest, hz⟩
            · rw [hz, rewriteMore]
            · rw [hz, rewriteMore, takesMode_newline, takesMode_newline, ih rest hz]

theorem takesMode_rewriteMore (hz : LineEnd z) :
    takesMode w (rewriteMore w mode z) = takesMode w z := by
  rcases hz with rfl | ⟨rest, rfl⟩
  · rfl
  · exact takesMode_rewriteAll hmode rest

/-- No line becomes a match. -/
theorem authEntry_rewriteAll (cs : List Char) :
    (authEntry w (rewriteAll w mode cs)).isSome = (authEntry w cs).isSome := by
  induction cs using pieces_induction w with
  | step cs ih =>
      cases h : authEntry w cs with
      | some found => rw [authEntry_rewritten hmode h, Option.isSome_some]; rfl
      | none =>
          rw [firstPiece_line h] at ih
          have hz := lineEnd_restOfText cs
          rw [← h, rewriteAll_line h]
          conv_rhs => rw [← takeLine_restOfText cs]
          by_cases hl : Inked (cs.takeWhile (· ≠ '\n'))
          · exact authEntry_isSome_append hl (lineEnd_rewriteMore hz).breaks hz.breaks
              (takesMode_rewriteMore hmode hz)
          · rw [authEntry_append_blank hl, authEntry_append_blank hl]
            rcases hz with hz | ⟨rest, hz⟩
            · rw [hz, rewriteMore]
            · rw [hz, rewriteMore, authEntry_newline, authEntry_newline, ih rest hz]

/-- A match that reads what it is rewritten to. -/
def Piece.patched (mode : String) : Piece → Piece
  | .entry indent _ => .entry indent (indent ++ authLine mode)
  | .line text => .line text

/-- The rewritten text is cut at the same places. -/
theorem pieces_rewriteAll (cs : List Char) :
    pieces w (rewriteAll w mode cs) = (pieces w cs).map (Piece.patched mode) := by
  induction cs using pieces_induction w with
  | step cs ih =>
      have hmore : morePieces w (rewriteMore w mode (firstPiece w cs).2) =
          (morePieces w (firstPiece w cs).2).map (Piece.patched mode) := by
        rcases firstPiece_lineEnd w cs with hz | ⟨rest, hz⟩
        · rw [hz]
          rfl
        · rw [hz]
          exact ih rest hz
      rw [pieces_eq w cs, List.map_cons, ← hmore, pieces_eq]
      cases h : authEntry w cs with
      | some found =>
          obtain ⟨indent, rest⟩ := found
          rw [firstPiece_entry (authEntry_rewritten hmode h), firstPiece_entry h, Piece.patched,
            rewriteAll_entry h, List.length_append, Nat.add_sub_cancel, List.take_left']
          rfl
      | none =>
          have hnone := authEntry_rewriteAll (w := w) hmode cs
          rw [h, Option.isSome_none, Option.isSome_eq_false_iff, Option.isNone_iff_eq_none] at hnone
          have hline := newline_notMem_takeLine cs
          have hz : LineEnd (rewriteMore w mode (restOfText cs)) :=
            lineEnd_rewriteMore (lineEnd_restOfText cs)
          rw [firstPiece_line hnone, firstPiece_line h, rewriteAll_line h, takeLine_append hline hz,
            restOfText_append hline, hz.restOfText]
          rfl

end Rewritten

/-! ## Patched texts -/

/-- Every match reads what it is rewritten to. -/
def Patched (w : WordChars) (mode : String) (cs : List Char) : Prop :=
  ∀ piece ∈ pieces w cs, piece.patched mode = piece

theorem patched_rewriteAll (hmode : mode = "none" ∨ mode = "password") (cs : List Char) :
    Patched w mode (rewriteAll w mode cs) := by
  intro piece hpiece
  rw [pieces_rewriteAll hmode, List.mem_map] at hpiece
  obtain ⟨before, -, rfl⟩ := hpiece
  cases before with
  | entry indent matched => rfl
  | line text => rfl

theorem patched_iff : Patched w mode cs ↔ (firstPiece w cs).1.patched mode = (firstPiece w cs).1 ∧
    ∀ piece ∈ morePieces w (firstPiece w cs).2, piece.patched mode = piece := by
  rw [Patched, pieces_eq, List.forall_mem_cons]

/-- What is matched, where the match is what it is rewritten to. -/
theorem Patched.matched {indent rest : List Char} (hset : Patched w mode cs)
    (h : authEntry w cs = some (indent, rest)) : cs = indent ++ authLine mode ++ rest := by
  have hfirst := (patched_iff.mp hset).1
  rw [firstPiece_entry h] at hfirst
  have hsuffix := firstPiece_suffix w cs
  rw [firstPiece_entry h] at hsuffix
  injection hfirst with _ hmatched
  rw [hmatched]
  exact (List.suffix_iff_eq_append.mp hsuffix).symm

theorem rewriteAll_of_patched (hset : Patched w mode cs) : rewriteAll w mode cs = cs := by
  induction cs using pieces_induction w with
  | step cs ih =>
      have hmore : rewriteMore w mode (firstPiece w cs).2 = (firstPiece w cs).2 := by
        have hsettled := (patched_iff.mp hset).2
        rcases firstPiece_lineEnd w cs with hz | ⟨rest, hz⟩
        · rw [hz]
          rfl
        · rw [hz] at hsettled
          rw [hz, rewriteMore, ih rest hz hsettled]
      cases h : authEntry w cs with
      | some found =>
          rw [firstPiece_entry h] at hmore
          rw [rewriteAll_entry h, hmore]
          exact (hset.matched h).symm
      | none =>
          rw [firstPiece_line h] at hmore
          rw [rewriteAll_line h, hmore]
          exact takeLine_restOfText cs

def HasEntry (w : WordChars) (cs : List Char) : Prop := (pieces w cs).any Piece.isEntry = true

theorem hasEntry_iff : HasEntry w cs ↔ (authEntry w cs).isSome = true ∨
    (morePieces w (firstPiece w cs).2).any Piece.isEntry = true := by
  rw [HasEntry, pieces_eq, List.any_cons, Bool.or_eq_true]
  refine or_congr_left ?_
  cases h : authEntry w cs with
  | some found =>
      rw [firstPiece_entry h]
      exact ⟨fun _ => rfl, fun _ => rfl⟩
  | none =>
      rw [firstPiece_line h]
      exact Iff.rfl

theorem patched_of_no_entry (h : ¬ HasEntry w cs) : Patched w mode cs := by
  intro piece hpiece
  cases piece with
  | line text => rfl
  | entry indent matched =>
      exact absurd (List.any_eq_true.mpr ⟨.entry indent matched, hpiece, rfl⟩) h

theorem patchAuth_of_entry (h : HasEntry w cs) : patchAuth w mode cs = rewriteAll w mode cs :=
  if_pos h

theorem patchAuth_of_no_entry (h : ¬ HasEntry w cs) :
    patchAuth w mode cs = authLine mode ++ '\n' :: cs := if_neg h

/-- After the patch of `auth` every match is patched, and there is one. -/
theorem patchAuth_patched (hmode : mode = "none" ∨ mode = "password") (cs : List Char) :
    Patched w mode (patchAuth w mode cs) ∧ HasEntry w (patchAuth w mode cs) := by
  by_cases hentry : HasEntry w cs
  · rw [patchAuth_of_entry hentry]
    refine ⟨patched_rewriteAll hmode cs, ?_⟩
    rw [HasEntry, pieces_rewriteAll hmode, List.any_map]
    rw [← show (pieces w cs).any Piece.isEntry = true from hentry]
    congr 1
    funext piece
    cases piece with
    | entry indent matched => rfl
    | line text => rfl
  · rw [patchAuth_of_no_entry hentry]
    have hfound : authEntry w (authLine mode ++ '\n' :: cs) = some ([], '\n' :: cs) :=
      authEntry_authLine hmode (show ∀ c ∈ ([] : List Char), isSpace c = true from nofun)
        (.inr ⟨cs, rfl⟩)
    refine ⟨patched_iff.mpr ⟨?_, ?_⟩, hasEntry_iff.mpr (.inl (by rw [hfound]; rfl))⟩
    · rw [firstPiece_entry hfound, List.length_append, Nat.add_sub_cancel, List.take_left']
      · rfl
      · rfl
    · rw [firstPiece_entry hfound]
      exact patched_of_no_entry hentry

theorem patchAuth_of_patched (hset : Patched w mode cs) (hentry : HasEntry w cs) :
    patchAuth w mode cs = cs := by
  rw [patchAuth_of_entry hentry]
  exact rewriteAll_of_patched hset

/-! ## The block at the end -/

/-- The text ends with something other than a space. -/
def Trimmed (cs : List Char) : Prop := ∃ init c, cs = init ++ [c] ∧ isSpace c = false

theorem Trimmed.inked (h : Trimmed y) : Inked y := by
  obtain ⟨init, c, rfl, hc⟩ := h
  by_contra hblank
  have := not_inked_iff.mp hblank c (List.mem_append_right init List.mem_cons_self)
  rw [hc] at this
  cases this

theorem rdropWhile_trimmed (h : Trimmed y) (hz : ∀ c ∈ z, isSpace c = true) :
    (y ++ z).rdropWhile isSpace = y := by
  obtain ⟨init, c, rfl, hc⟩ := h
  rw [List.rdropWhile, List.reverse_append, List.dropWhile_append_of_pos (by simpa using hz),
    List.reverse_append, List.reverse_singleton, List.singleton_append,
    List.dropWhile_cons_of_neg (by simp [hc])]
  simp

theorem trimmed_rdropWhile (h : Inked cs) : Trimmed (cs.rdropWhile isSpace) := by
  have hne : cs.rdropWhile isSpace ≠ [] := by
    rw [Ne, List.rdropWhile_eq_nil_iff]
    exact fun hall => (not_inked_iff.mpr hall) h
  refine ⟨_, _, (List.dropLast_append_getLast hne).symm, ?_⟩
  exact eq_false_of_ne_true (List.rdropWhile_last_not isSpace cs hne)

theorem Trimmed.of_suffix (h : Trimmed y) (hz : z <:+ y) (hne : z ≠ []) : Trimmed z := by
  obtain ⟨init, c, rfl, hc⟩ := h
  obtain ⟨before, hz⟩ := hz
  refine ⟨z.dropLast, z.getLast hne, (List.dropLast_append_getLast hne).symm, ?_⟩
  have hlast := congrArg (fun l => l.getLast?) hz
  rw [List.getLast?_append_of_ne_nil _ hne, List.getLast?_concat, List.getLast?_eq_some_getLast hne]
    at hlast
  rw [Option.some.inj hlast]
  exact hc

/-- What comes after a line end of the text. -/
theorem Trimmed.after_newline {before after : List Char} (h : Trimmed y)
    (hsuffix : before ++ '\n' :: after <:+ y) : Trimmed after := by
  obtain ⟨init, c, heq, hc⟩ := h.of_suffix ((List.suffix_append before _).trans hsuffix)
    (List.cons_ne_nil _ _)
  cases init with
  | nil =>
      cases heq
      exact absurd hc (by decide)
  | cons d init =>
      cases heq
      exact ⟨init, c, rfl, hc⟩

theorem authLine_trimmed (hmode : mode = "none" ∨ mode = "password") (indent : List Char) :
    Trimmed (indent ++ authLine mode) := by
  rcases hmode with rfl | rfl
  · exact ⟨indent ++ "auth: non".toList, 'e', by rw [List.append_assoc]; rfl, by decide⟩
  · exact ⟨indent ++ "auth: passwor".toList, 'd', by rw [List.append_assoc]; rfl, by decide⟩

theorem takesMode_blank (hz : ∀ c ∈ z, isSpace c = true) : takesMode w z = false := by
  have := takesMode_append_blank (w := w) (not_inked_iff.mpr hz) []
  rw [List.append_nil] at this
  rw [this]
  rfl

theorem hasEntry_line (rest : List Char) (h : authEntry w cs = none)
    (hrest : restOfText cs = '\n' :: rest) : HasEntry w cs ↔ HasEntry w rest := by
  rw [hasEntry_iff, h, firstPiece_line h, hrest]
  exact ⟨fun h => h.resolve_left (by decide), .inr⟩

theorem hasEntry_last (h : authEntry w cs = none) (hrest : restOfText cs = []) :
    ¬ HasEntry w cs := by
  rw [hasEntry_iff, h, firstPiece_line h, hrest]
  rintro (h | h)
  · cases h
  · cases h

theorem authEntry_blank (hz : ∀ c ∈ z, isSpace c = true) : authEntry w z = none := by
  have := authEntry_append_blank (w := w) (not_inked_iff.mpr hz) []
  rw [List.append_nil] at this
  exact Option.isNone_iff_eq_none.mp (Option.isSome_eq_false_iff.mp this)

theorem blank_lines (hz : ∀ c ∈ z, isSpace c = true) : ¬ HasEntry w z := by
  induction z using pieces_induction w with
  | step z ih =>
      have hnone := authEntry_blank (w := w) hz
      rcases restOfText_cases z with hrest | ⟨rest, hrest⟩
      · exact hasEntry_last hnone hrest
      · rw [hasEntry_line _ hnone hrest]
        refine ih rest (by rw [firstPiece_line hnone, hrest]) fun c hc => hz c ?_
        exact (restOfText_suffix z).mem (hrest ▸ List.mem_cons_of_mem _ hc)

/-- No line of the block matches. -/
theorem block_lines (w : WordChars) : ¬ HasEntry w trustedOriginsBlock := by
  rw [hasEntry_line "\ntrusted-origins:\n  - '*'\n".toList rfl rfl,
    hasEntry_line "trusted-origins:\n  - '*'\n".toList rfl rfl,
    hasEntry_line "  - '*'\n".toList rfl rfl, hasEntry_line [] rfl rfl]
  exact hasEntry_last rfl rfl

theorem lineEnd_block : LineEnd trustedOriginsBlock := .inr ⟨_, rfl⟩

/-- The first match of a text that goes on with the block. -/
theorem patched_block_entry {indent rest : List Char} (hmode : mode = "none" ∨ mode = "password")
    (hy : Trimmed y) (hz : ∀ c ∈ z, isSpace c = true) (hset : Patched w mode (y ++ z))
    (h : authEntry w (y ++ z) = some (indent, rest))
    (ih : ∀ y', Trimmed y' → rest = '\n' :: (y' ++ z) →
      Patched w mode (y' ++ trustedOriginsBlock)) :
    Patched w mode (y ++ trustedOriginsBlock) ∧ HasEntry w (y ++ trustedOriginsBlock) := by
  have hblock : Breaks trustedOriginsBlock := lineEnd_block.breaks
  obtain ⟨tail, htail, rfl, hfound⟩ :=
    authEntry_append_of_append hy.inked (.of_all hz) hblock (takesMode_blank hz) h
  have hmatched := hset.matched h
  refine ⟨?_, hasEntry_iff.mpr (.inl (by rw [hfound]; rfl))⟩
  -- The match with the block after it is what the pattern writes, too.
  suffices hcut : y ++ trustedOriginsBlock =
      indent ++ authLine mode ++ restOfText (tail ++ trustedOriginsBlock) ∧
      ∀ piece ∈ morePieces w (restOfText (tail ++ trustedOriginsBlock)),
        piece.patched mode = piece by
    refine patched_iff.mpr ?_
    rw [firstPiece_entry hfound]
    refine ⟨?_, hcut.2⟩
    rw [hcut.1, List.length_append, Nat.add_sub_cancel, List.take_left']
    · rfl
    · rfl
  by_cases hline : '\n' ∈ tail
  · obtain ⟨before, after, rfl, hbefore⟩ := List.eq_append_cons_of_mem hline
    have hcons : ∀ x, restOfText (before ++ '\n' :: after ++ x) = '\n' :: (after ++ x) := by
      intro x
      rw [List.append_assoc, restOfText_append hbefore]
      rfl
    rw [hcons] at hmatched ih ⊢
    refine ⟨?_, ih after (hy.after_newline htail) rfl⟩
    have hy' : y = indent ++ authLine mode ++ '\n' :: after := by
      have hall : y ++ z = (indent ++ authLine mode ++ '\n' :: after) ++ z := by
        rw [hmatched, List.append_assoc (indent ++ authLine mode)]
        rfl
      exact List.append_cancel_right hall
    rw [hy', List.append_assoc]
    rfl
  · rw [restOfText_append hline] at hmatched ⊢
    have hy' : y = indent ++ authLine mode := by
      have hright := congrArg (List.rdropWhile isSpace) hmatched
      rw [rdropWhile_trimmed hy hz, rdropWhile_trimmed (authLine_trimmed hmode indent)] at hright
      · exact hright
      · exact fun c hc => hz c ((restOfText_suffix z).mem hc)
    refine ⟨by rw [← hy']; rfl, ?_⟩
    exact (patched_iff.mp (patched_of_no_entry (block_lines w))).2

/-- A patched text stays patched when the block takes the place of the spaces at its end. -/
theorem patched_block (hmode : mode = "none" ∨ mode = "password") (hy : Trimmed y)
    (hz : ∀ c ∈ z, isSpace c = true) (hset : Patched w mode (y ++ z)) :
    Patched w mode (y ++ trustedOriginsBlock) ∧
      (HasEntry w (y ++ z) → HasEntry w (y ++ trustedOriginsBlock)) := by
  induction hcs : y ++ z using pieces_induction w generalizing y with
  | step cs ih =>
      subst hcs
      have hmore : ∀ y', Trimmed y' → (firstPiece w (y ++ z)).2 = '\n' :: (y' ++ z) →
          Patched w mode (y' ++ trustedOriginsBlock) ∧
            (HasEntry w (y' ++ z) → HasEntry w (y' ++ trustedOriginsBlock)) := by
        intro y' hy' hrest
        have hsettled := (patched_iff.mp hset).2
        rw [hrest] at hsettled
        exact ih _ hrest hy' hsettled rfl
      cases h : authEntry w (y ++ z) with
      | some found =>
          obtain ⟨indent, rest⟩ := found
          rw [firstPiece_entry h] at hmore
          have hblock := patched_block_entry hmode hy hz hset h fun y' hy' hrest =>
            (hmore y' hy' hrest).1
          exact ⟨hblock.1, fun _ => hblock.2⟩
      | none =>
          have hnone : authEntry w (y ++ trustedOriginsBlock) = none := by
            rw [← Option.not_isSome_iff_eq_none, authEntry_isSome_append hy.inked
              lineEnd_block.breaks (.of_all hz) (takesMode_blank hz).symm, h]
            decide
          rw [firstPiece_line h] at hmore
          by_cases hline : '\n' ∈ y
          · obtain ⟨before, after, rfl, hbefore⟩ := List.eq_append_cons_of_mem hline
            have hcons : ∀ x, restOfText (before ++ '\n' :: after ++ x) = '\n' :: (after ++ x) := by
              intro x
              rw [List.append_assoc, restOfText_append hbefore]
              rfl
            obtain ⟨hsettled, hkeeps⟩ := hmore after (hy.after_newline (List.suffix_refl _))
              (hcons z)
            refine ⟨patched_iff.mpr ?_, ?_⟩
            · rw [firstPiece_line hnone, hcons]
              exact ⟨rfl, hsettled⟩
            · rw [hasEntry_line _ h (hcons z), hasEntry_line _ hnone (hcons trustedOriginsBlock)]
              exact hkeeps
          · have hrest : restOfText (y ++ trustedOriginsBlock) = trustedOriginsBlock := by
              rw [restOfText_append hline]
              rfl
            refine ⟨patched_iff.mpr ?_, fun hentry => ?_⟩
            · rw [firstPiece_line hnone, hrest]
              exact ⟨rfl, (patched_iff.mp (patched_of_no_entry (block_lines w))).2⟩
            · rcases restOfText_cases z with hz' | ⟨rest, hz'⟩
              · exact absurd hentry (hasEntry_last h (by rw [restOfText_append hline, hz']))
              · rw [hasEntry_line _ h (by rw [restOfText_append hline, hz'])] at hentry
                refine absurd hentry (blank_lines fun c hc => hz c ?_)
                exact (restOfText_suffix z).mem (hz' ▸ List.mem_cons_of_mem _ hc)

/-! ## A second call -/

theorem searchLines_append {found : List Char → Bool} {cs : List Char} (b : Bool) (init : List Char)
    (h : searchLines found true cs = true) : searchLines found b (init ++ '\n' :: cs) = true := by
  induction init generalizing b with
  | nil => rw [List.nil_append, searchLines, decide_eq_true rfl, h, Bool.or_true]
  | cons c init ih => rw [List.cons_append, searchLines, ih, Bool.or_true]

theorem block_found (init : List Char) :
    searchLines trustedOriginsAt true (init ++ trustedOriginsBlock) = true :=
  searchLines_append true init rfl

theorem HasEntry.inked (h : HasEntry w cs) : Inked cs := by
  by_contra hblank
  exact blank_lines (not_inked_iff.mp hblank) h

/-- The patched text is patched, and the origins are found in it. -/
theorem patchTrustedOrigins_patched (hmode : mode = "none" ∨ mode = "password")
    (hset : Patched w mode cs) (hentry : HasEntry w cs) :
    Patched w mode (patchTrustedOrigins cs) ∧ HasEntry w (patchTrustedOrigins cs) ∧
      searchLines trustedOriginsAt true (patchTrustedOrigins cs) = true := by
  unfold patchTrustedOrigins
  split
  next hfound => exact ⟨hset, hentry, hfound⟩
  next =>
    have htrimmed := trimmed_rdropWhile hentry.inked
    have hcut := List.rdropWhile_append_rtakeWhile (p := isSpace) (l := cs)
    have hblank : ∀ c ∈ cs.rtakeWhile isSpace, isSpace c = true :=
      fun c hc => List.mem_rtakeWhile_imp hc
    rw [← hcut] at hset hentry
    have hblock := patched_block hmode htrimmed hblank hset
    exact ⟨hblock.1, hblock.2 hentry, block_found _⟩

theorem universalNewlines_eq_self (h : '\r' ∉ cs) : universalNewlines cs = cs := by
  fun_induction universalNewlines cs with
  | case1 => rfl
  | case2 cs ih => exact absurd List.mem_cons_self h
  | case3 c cs hcr ih =>
      rw [List.mem_cons, not_or] at h
      rw [ih h.2, if_neg fun heq => h.1 heq.symm]

theorem cr_notMem_universalNewlines (cs : List Char) : '\r' ∉ universalNewlines cs := by
  fun_induction universalNewlines cs with
  | case1 => exact List.not_mem_nil
  | case2 cs ih =>
      rw [List.mem_cons, not_or]
      exact ⟨by decide, ih⟩
  | case3 c cs hcr ih =>
      rw [List.mem_cons, not_or]
      refine ⟨?_, ih⟩
      split
      · decide
      next hc => exact fun heq => hc heq.symm

theorem mem_rewriteAll {c : Char} (h : c ∈ rewriteAll w mode cs) :
    c ∈ cs ∨ c ∈ authLine mode := by
  induction cs using pieces_induction w with
  | step cs ih =>
      have hmore : c ∈ rewriteMore w mode (firstPiece w cs).2 → c ∈ cs ∨ c ∈ authLine mode := by
        intro hc
        have hsuffix := firstPiece_suffix w cs
        rcases firstPiece_lineEnd w cs with hz | ⟨rest, hz⟩
        · rw [hz] at hc
          cases hc
        · rw [hz] at hc hsuffix
          rcases List.mem_cons.mp hc with rfl | hc
          · exact .inl (hsuffix.mem List.mem_cons_self)
          · exact (ih rest hz hc).imp_left fun hc => hsuffix.mem (List.mem_cons_of_mem _ hc)
      cases hfound : authEntry w cs with
      | some found =>
          obtain ⟨indent, rest⟩ := found
          obtain ⟨value, tail, -, -, rfl, -⟩ := authEntry_eq_some.mp hfound
          rw [rewriteAll_entry hfound, List.mem_append, List.mem_append] at h
          rcases h with (h | h) | h
          · exact .inl ((List.takeWhile_prefix _).mem h)
          · exact .inr h
          · exact hmore (by rwa [firstPiece_entry hfound])
      | none =>
          rw [rewriteAll_line hfound, List.mem_append] at h
          rcases h with h | h
          · exact .inl ((List.takeWhile_prefix _).mem h)
          · exact hmore (by rwa [firstPiece_line hfound])

/-- The written text has no carriage return of its own. -/
theorem cr_notMem_patched (hmode : mode = "none" ∨ mode = "password") (h : '\r' ∉ cs) :
    '\r' ∉ patchTrustedOrigins (patchAuth w mode cs) := by
  have hline : '\r' ∉ authLine mode := by
    rcases hmode with rfl | rfl
    · decide
    · decide
  have hauth : '\r' ∉ patchAuth w mode cs := by
    unfold patchAuth
    split
    · exact fun hc => (mem_rewriteAll hc).elim h hline
    · rw [List.mem_append, List.mem_cons]
      rintro (hc | hc | hc)
      · exact hline hc
      · exact absurd hc (by decide)
      · exact h hc
  unfold patchTrustedOrigins
  split
  · exact hauth
  · rw [List.mem_append]
    rintro (hc | hc)
    · exact hauth ((List.rdropWhile_prefix _ _).mem hc)
    · exact absurd hc (by decide)

theorem effectiveMode_cases (authMode : String) :
    effectiveMode authMode = "none" ∨ effectiveMode authMode = "password" := by
  unfold effectiveMode
  dsimp only
  generalize lower (strip (if authMode = "" then "none" else authMode)) = mode
  by_cases h : mode = "none" ∨ mode = "password"
  · rw [if_pos h]
    exact h
  · rw [if_neg h]
    exact .inl rfl

/-- A second call leaves the file as it is. -/
theorem ensure_again (w : WordChars) (authMode text : String) :
    ensureCodeServerBindAuthProxyConfig w authMode
        (some (ensureCodeServerBindAuthProxyConfig w authMode (some text))) =
      ensureCodeServerBindAuthProxyConfig w authMode (some text) := by
  have hmode := effectiveMode_cases authMode
  have hcr := cr_notMem_patched (w := w) hmode (cr_notMem_universalNewlines text.toList)
  obtain ⟨hset, hentry⟩ :=
    patchAuth_patched (w := w) hmode (universalNewlines text.toList)
  obtain ⟨hset, hentry, hfound⟩ := patchTrustedOrigins_patched hmode hset hentry
  unfold ensureCodeServerBindAuthProxyConfig
  dsimp only
  rw [String.toList_ofList, universalNewlines_eq_self hcr, patchAuth_of_patched hset hentry,
    patchTrustedOrigins, if_pos hfound]

/-! ## Values of the file -/

theorem authValues_line {l : List Char} (hl : '\n' ∉ l) : authValues l = (authValue l).toList := by
  rw [authValues, splitChar_of_notMem hl]
  cases h : authValue l with
  | none => rw [List.filterMap_cons_none h]; rfl
  | some v => rw [List.filterMap_cons_some h]; rfl

/-- A text is its first line and the rest. -/
theorem lines_induction {P : List Char → Prop} (last : ∀ l, '\n' ∉ l → P l)
    (more : ∀ l cs, '\n' ∉ l → P cs → P (l ++ '\n' :: cs)) (cs : List Char) : P cs := by
  induction hn : cs.length using Nat.strong_induction_on generalizing cs with
  | _ n ih =>
      by_cases hline : '\n' ∈ cs
      · obtain ⟨l, rest, rfl, hl⟩ := List.eq_append_cons_of_mem hline
        refine more l rest hl (ih rest.length ?_ rest rfl)
        rw [← hn, List.length_append, List.length_cons]
        omega
      · exact last cs hline

theorem authValues_cons {l : List Char} (hl : '\n' ∉ l) (cs : List Char) :
    authValues (l ++ '\n' :: cs) = (authValue l).toList ++ authValues cs := by
  rw [authValues, splitChar_append hl]
  cases h : authValue l with
  | none => rw [List.filterMap_cons_none h]; rfl
  | some v => rw [List.filterMap_cons_some h]; rfl

theorem authValues_append (cs rest : List Char) :
    authValues (cs ++ '\n' :: rest) = authValues cs ++ authValues rest := by
  induction cs using lines_induction with
  | last l hl => rw [authValues_cons hl, authValues_line hl]
  | more l cs hl ih =>
      rw [List.append_assoc, List.cons_append, authValues_cons hl, authValues_cons hl, ih,
        List.append_assoc]

theorem keys_append (hz : Breaks z) (l : List Char) :
    (authKeys.findSome? fun key => afterWord (· == ·) key (l ++ z)) =
      (authKeys.findSome? fun key => afterWord (· == ·) key l).map (· ++ z) := by
  have hkeys : ∀ key ∈ authKeys, ∀ c ∈ key, isSpace c = false := by
    intro key hkey
    refine not_space_of_any ?_
    revert key
    decide
  generalize authKeys = keys at hkeys
  induction keys with
  | nil => rfl
  | cons key keys ih =>
      rw [List.findSome?_cons, List.findSome?_cons,
        afterWord_append (spaceFree_eq (hkeys key List.mem_cons_self)) hz,
        ih fun k hk => hkeys k (List.mem_cons_of_mem _ hk)]
      cases afterWord (· == ·) key l with
      | none => rfl
      | some rest => rfl

/-- A line that begins with a space has no key. -/
theorem authValue_of_breaks {l : List Char} (h : Breaks l) : authValue l = none := by
  have := keys_append h []
  rw [List.nil_append] at this
  rw [authValue, this]
  rfl

theorem dropComment_append (hz : ∀ c ∈ z, isSpace c = true) (b : Bool) (v : List Char) :
    dropComment b (v ++ z) = dropComment b v ∨ dropComment b (v ++ z) = dropComment b v ++ z := by
  have hself : ∀ b, dropComment b z = z := by
    induction z with
    | nil => exact fun b => rfl
    | cons c z ih =>
        intro b
        rw [List.forall_mem_cons] at hz
        rw [dropComment, ih hz.2, if_neg]
        rintro ⟨rfl, -⟩
        exact absurd hz.1 (by decide)
  induction v generalizing b with
  | nil => exact .inr (hself b)
  | cons c v ih =>
      rw [List.cons_append, dropComment, dropComment]
      split
      · exact .inl rfl
      · rcases ih (isSpace c) with h | h
        · exact .inl (by rw [h])
        · exact .inr (by rw [h]; rfl)

theorem stripChars_append_blank (hz : ∀ c ∈ z, isSpace c = true) (v : List Char) :
    stripChars (v ++ z) = stripChars v := by
  by_cases hv : Inked v
  · rw [stripChars, stripChars, dropSpaces_append hv, List.reverse_append,
      List.dropWhile_append_of_pos fun c hc => hz c (List.mem_reverse.mp hc)]
  · rw [stripChars, stripChars, dropSpaces_append_blank hv, not_not.mp hv,
      List.dropWhile_eq_nil_iff.mpr hz]

/-- Spaces at the end of a line change no value. -/
theorem authValue_append_blank (hz : ∀ c ∈ z, isSpace c = true) (l : List Char) :
    authValue (l ++ z) = authValue l := by
  rw [authValue, authValue, keys_append (.of_all hz)]
  cases authKeys.findSome? fun key => afterWord (· == ·) key l with
  | none => rfl
  | some rest =>
      rw [Option.map_some, Option.bind_some, Option.bind_some]
      by_cases hrest : Inked rest
      · rw [dropSpaces_append hrest]
        cases hcs : rest.dropWhile isSpace with
        | nil => exact absurd hcs hrest
        | cons c v =>
            have hstrip : stripChars (dropComment false (v ++ z)) =
                stripChars (dropComment false v) := by
              rcases dropComment_append hz false v with h | h
              · rw [h]
              · rw [h, stripChars_append_blank hz]
            rw [List.cons_append]
            by_cases hc : c = ':'
            · rw [hc]
              exact congrArg (fun v => some (unquote v)) hstrip
            · split
              next heq =>
                cases heq
                exact absurd rfl hc
              next =>
                split
                next heq =>
                  cases heq
                  exact absurd rfl hc
                next => rfl
      · rw [dropSpaces_append_blank hrest, not_not.mp hrest, List.dropWhile_eq_nil_iff.mpr hz]

theorem authValues_blank (hz : ∀ c ∈ z, isSpace c = true) : authValues z = [] := by
  induction z using lines_induction with
  | last l hl => rw [authValues_line hl, authValue_of_breaks (.of_all hz)]; rfl
  | more l cs hl ih =>
      rw [List.forall_mem_append, List.forall_mem_cons] at hz
      rw [authValues_cons hl, authValue_of_breaks (.of_all hz.1), ih hz.2.2]
      rfl

theorem authValues_append_blank (hz : ∀ c ∈ z, isSpace c = true) (cs : List Char) :
    authValues (cs ++ z) = authValues cs := by
  induction cs using lines_induction with
  | last l hl =>
      rw [authValues_line hl, ← authValue_append_blank (z := z.takeWhile (· ≠ '\n')) (fun c hc =>
        hz c ((List.takeWhile_prefix _).mem hc)) l]
      have hnew : '\n' ∉ l ++ z.takeWhile (· ≠ '\n') := fun h =>
        (List.mem_append.mp h).elim hl (newline_notMem_takeLine z)
      conv_lhs => rw [← takeLine_restOfText z, ← List.append_assoc]
      rcases restOfText_cases z with hrest | ⟨rest, hrest⟩
      · rw [hrest, List.append_nil, authValues_line hnew]
      · rw [hrest, authValues_cons hnew, authValues_blank, List.append_nil]
        exact fun c hc => hz c ((restOfText_suffix z).mem (hrest ▸ List.mem_cons_of_mem _ hc))
  | more l cs hl ih =>
      rw [List.append_assoc, List.cons_append, authValues_cons hl, authValues_cons hl, ih]

theorem authValues_patchTrustedOrigins (cs : List Char) :
    authValues (patchTrustedOrigins cs) = authValues cs := by
  unfold patchTrustedOrigins
  split
  · rfl
  · rw [show trustedOriginsBlock = '\n' :: "\ntrusted-origins:\n  - '*'\n".toList from rfl,
      authValues_append, show authValues "\ntrusted-origins:\n  - '*'\n".toList = [] by decide,
      List.append_nil]
    conv_rhs => rw [← List.rdropWhile_append_rtakeWhile (p := isSpace) (l := cs)]
    exact (authValues_append_blank (fun c hc => List.mem_rtakeWhile_imp hc) _).symm

/-! ## Settings after the call -/

def Piece.values (mode : String) : Piece → List (List Char)
  | .entry indent _ => if atColumnZero indent then [mode.toList] else []
  | .line text => (authValue text).toList

theorem atColumnZero_append (l cs : List Char) :
    atColumnZero (l ++ '\n' :: cs) ↔ atColumnZero cs := by
  have hne : l ++ '\n' :: cs ≠ [] := List.append_ne_nil_of_right_ne_nil l (List.cons_ne_nil _ _)
  cases cs with
  | nil => exact ⟨fun _ => .inl rfl, fun _ => .inr (List.getLast?_concat)⟩
  | cons c cs =>
      rw [atColumnZero, atColumnZero, List.getLast?_append_of_ne_nil l (List.cons_ne_nil _ _),
        List.getLast?_cons_cons]
      exact or_congr ⟨fun h => absurd h hne, fun h => by cases h⟩ Iff.rfl

/-- The value of a rewritten match. -/
theorem authValues_entry (hmode : mode = "none" ∨ mode = "password") {indent : List Char}
    (hindent : ∀ c ∈ indent, isSpace c = true) :
    authValues (indent ++ authLine mode) = if atColumnZero indent then [mode.toList] else [] := by
  have hline : '\n' ∉ authLine mode := by
    rcases hmode with rfl | rfl
    · decide
    · decide
  induction indent using lines_induction with
  | last l hl =>
      rw [authValues_line fun h => (List.mem_append.mp h).elim hl hline]
      cases l with
      | nil =>
          rw [if_pos (.inl rfl)]
          rcases hmode with rfl | rfl
          · decide
          · decide
      | cons c l =>
          have hbreaks : Breaks (c :: l ++ authLine mode) := by
            intro d hd
            cases hd
            exact hindent c List.mem_cons_self
          rw [authValue_of_breaks hbreaks, if_neg]
          · rfl
          · rintro (h | h)
            · cases h
            · exact hl (List.mem_of_getLast? h)
  | more l cs hl ih =>
      rw [List.forall_mem_append, List.forall_mem_cons] at hindent
      rw [List.append_assoc, List.cons_append, authValues_cons hl,
        authValue_of_breaks (.of_all hindent.1), ih hindent.2.2]
      simp only [atColumnZero_append]
      rfl

theorem authValues_rewriteAll (hmode : mode = "none" ∨ mode = "password") (cs : List Char) :
    authValues (rewriteAll w mode cs) = (pieces w cs).flatMap (Piece.values mode) := by
  induction cs using pieces_induction w with
  | step cs ih =>
      have hfirst : authValues ((firstPiece w cs).1.rewritten mode) =
          (firstPiece w cs).1.values mode := by
        cases h : authEntry w cs with
        | some found =>
            rw [firstPiece_entry h, Piece.rewritten, List.append_assoc]
            exact authValues_entry hmode (indent_blank h)
        | none =>
            rw [firstPiece_line h]
            exact authValues_line (newline_notMem_takeLine cs)
      rw [rewriteAll_eq, pieces_eq, List.flatMap_cons, ← hfirst]
      rcases firstPiece_lineEnd w cs with hz | ⟨rest, hz⟩
      · rw [hz, rewriteMore, morePieces, List.append_nil, List.flatMap_nil, List.append_nil]
      · rw [hz, rewriteMore, morePieces, authValues_append, ih rest hz]

theorem mem_keptLines {l : List Char} : l ∈ keptLines w cs ↔ Piece.line l ∈ pieces w cs := by
  rw [keptLines, List.mem_filterMap]
  constructor
  · rintro ⟨piece, hpiece, hl⟩
    cases piece with
    | entry indent matched => cases hl
    | line text =>
        cases hl
        exact hpiece
  · exact fun h => ⟨.line l, h, rfl⟩

theorem mem_indents {indent : List Char} :
    indent ∈ indents w cs ↔ ∃ matched, Piece.entry indent matched ∈ pieces w cs := by
  rw [indents, List.mem_filterMap]
  constructor
  · rintro ⟨piece, hpiece, hl⟩
    cases piece with
    | entry indent matched =>
        cases hl
        exact ⟨matched, hpiece⟩
    | line text => cases hl
  · exact fun ⟨matched, h⟩ => ⟨.entry indent matched, h, rfl⟩

theorem ne_nil_iff_exists_mem {α : Type} {l : List α} : l ≠ [] ↔ ∃ x, x ∈ l :=
  ⟨List.exists_mem_of_ne_nil l, fun ⟨_, h⟩ => List.ne_nil_of_mem h⟩

theorem hasEntry_iff_indents : HasEntry w cs ↔ indents w cs ≠ [] := by
  rw [HasEntry, List.any_eq_true, ne_nil_iff_exists_mem]
  constructor
  · rintro ⟨piece, hpiece, hentry⟩
    cases piece with
    | entry indent matched => exact ⟨indent, mem_indents.mpr ⟨matched, hpiece⟩⟩
    | line text => cases hentry
  · rintro ⟨indent, hindent⟩
    obtain ⟨matched, hpiece⟩ := mem_indents.mp hindent
    exact ⟨.entry indent matched, hpiece, rfl⟩

/-- The values come from the matches at column 0 and from the kept lines. -/
theorem mem_values {v : List Char} : v ∈ (pieces w cs).flatMap (Piece.values mode) ↔
    (v = mode.toList ∧ ∃ indent ∈ indents w cs, atColumnZero indent) ∨
      ∃ l ∈ keptLines w cs, authValue l = some v := by
  rw [List.mem_flatMap]
  constructor
  · rintro ⟨piece, hpiece, hv⟩
    cases piece with
    | entry indent matched =>
        rw [Piece.values] at hv
        by_cases hcol : atColumnZero indent
        · rw [if_pos hcol] at hv
          exact .inl ⟨List.mem_singleton.mp hv, indent, mem_indents.mpr ⟨matched, hpiece⟩, hcol⟩
        · rw [if_neg hcol] at hv
          cases hv
    | line text => exact .inr ⟨text, mem_keptLines.mpr hpiece, Option.mem_toList.mp hv⟩
  · rintro (⟨rfl, indent, hindent, hcol⟩ | ⟨l, hl, hv⟩)
    · obtain ⟨matched, hpiece⟩ := mem_indents.mp hindent
      refine ⟨.entry indent matched, hpiece, ?_⟩
      rw [Piece.values, if_pos hcol]
      exact List.mem_cons_self
    · exact ⟨.line l, mem_keptLines.mp hl, Option.mem_toList.mpr hv⟩

/-- The values of the patched text. -/
theorem authValues_patchAuth (hmode : mode = "none" ∨ mode = "password") (cs : List Char) :
    (authValues (patchAuth w mode cs) ≠ [] ∧
      ∀ v ∈ authValues (patchAuth w mode cs), v = mode.toList) ↔
      KeepsOnlyMode w mode cs := by
  have hsome : ∀ l, (authValue l).isSome = true ↔ ∃ v, authValue l = some v :=
    fun l => Option.isSome_iff_exists
  by_cases hentry : HasEntry w cs
  · rw [patchAuth_of_entry hentry, authValues_rewriteAll hmode, ne_nil_iff_exists_mem]
    simp only [mem_values]
    constructor
    · rintro ⟨⟨v, hv⟩, hall⟩
      refine ⟨fun l hl v hlv => hall v (.inr ⟨l, hl, hlv⟩), fun _ => ?_⟩
      rcases hv with ⟨-, hcol⟩ | ⟨l, hl, hlv⟩
      · exact .inl hcol
      · exact .inr ⟨l, hl, (hsome l).mpr ⟨v, hlv⟩⟩
    · rintro ⟨hkept, hthere⟩
      refine ⟨?_, ?_⟩
      · rcases hthere (hasEntry_iff_indents.mp hentry) with hcol | ⟨l, hl, hlv⟩
        · exact ⟨mode.toList, .inl ⟨rfl, hcol⟩⟩
        · obtain ⟨v, hv⟩ := (hsome l).mp hlv
          exact ⟨v, .inr ⟨l, hl, hv⟩⟩
      · rintro v (⟨rfl, -⟩ | ⟨l, hl, hlv⟩)
        · rfl
        · exact hkept l hl v hlv
  · have hself : authValues cs = (pieces w cs).flatMap (Piece.values mode) := by
      rw [← authValues_rewriteAll hmode, rewriteAll_of_patched (patched_of_no_entry hentry)]
    have hauth : authValues ([] ++ authLine mode) = if atColumnZero [] then [mode.toList] else [] :=
      authValues_entry hmode nofun
    rw [List.nil_append, if_pos (.inl rfl)] at hauth
    have hnone : indents w cs = [] := not_not.mp fun h => hentry (hasEntry_iff_indents.mpr h)
    rw [patchAuth_of_no_entry hentry, authValues_append, hauth, hself, List.forall_mem_append]
    simp only [mem_values]
    constructor
    · rintro ⟨-, -, hall⟩
      exact ⟨fun l hl v hlv => hall v (.inr ⟨l, hl, hlv⟩), fun h => absurd hnone h⟩
    · rintro ⟨hkept, -⟩
      refine ⟨List.cons_ne_nil _ _, List.forall_mem_singleton.mpr rfl, ?_⟩
      rintro v (⟨rfl, -⟩ | ⟨l, hl, hlv⟩)
      · rfl
      · exact hkept l hl v hlv

/-- After the call the mode wins exactly when every line with the key that the pattern leaves alone
has the mode, and the pattern matches at column 0 or not at all, or such a line is there. -/
theorem auth_mode_wins_iff (w : WordChars) (authMode text : String) :
    AuthModeWins w authMode text ↔
      KeepsOnlyMode w (effectiveMode authMode) (universalNewlines text.toList) := by
  have hvalues : authValues (ensureCodeServerBindAuthProxyConfig w authMode (some text)).toList =
      authValues (patchAuth w (effectiveMode authMode) (universalNewlines text.toList)) := by
    rw [ensureCodeServerBindAuthProxyConfig, String.toList_ofList, authValues_patchTrustedOrigins]
  rw [← authValues_patchAuth (effectiveMode_cases authMode), ← hvalues]
  exact ⟨fun h => ⟨h.present, h.agree⟩, fun h => ⟨h.1, h.2, ensure_again w authMode text⟩⟩

/-! ## A quoted value -/

/-- `\w` on ASCII only. -/
def asciiWords : WordChars where
  isWord c := c.isAlphanum || c == '_'
  ascii _ _ := rfl
  not_space := by
    intro c hc
    rw [← Bool.not_eq_true]
    intro hw
    have hval : c.val.toNat = c.toNat := rfl
    have hends : 'a'.val.toNat = 97 ∧ 'z'.val.toNat = 122 ∧ 'A'.val.toNat = 65 ∧
        'Z'.val.toNat = 90 ∧ '0'.val.toNat = 48 ∧ '9'.val.toNat = 57 := by decide
    simp only [isSpace, Bool.or_eq_true, Bool.and_eq_true, decide_eq_true_eq, List.mem_cons,
      List.not_mem_nil, or_false] at hc
    delta Char.isAlphanum Char.isAlpha Char.isUpper Char.isLower Char.isDigit at hw
    simp only [Bool.or_eq_true, Bool.and_eq_true, decide_eq_true_eq, ge_iff_le,
      UInt32.le_iff_toNat_le, beq_iff_eq] at hw
    rcases hw with ((hw | hw) | hw) | rfl
    · omega
    · omega
    · omega
    · exact absurd hc (by decide)

/-- `auth: "password"` is no match; the mode comes before it, and the file has both. -/
theorem quoted_password_stays :
    ¬ ∀ (w : WordChars) (authMode text : String), AuthModeWins w authMode text := by
  intro h
  have hagree := (h asciiWords "none" "auth: \"password\"\n").agree
  rw [ensureCodeServerBindAuthProxyConfig, String.toList_ofList, authValues_patchTrustedOrigins]
    at hagree
  have hmode : effectiveMode "none" = "none" := by decide
  have hnone : ¬ HasEntry asciiWords "auth: \"password\"\n".toList := by
    rw [hasEntry_line [] rfl rfl]
    exact hasEntry_last rfl rfl
  have htext : universalNewlines "auth: \"password\"\n".toList = "auth: \"password\"\n".toList := by
    decide
  rw [hmode, htext, patchAuth_of_no_entry hnone] at hagree
  have := hagree "password".toList (by decide)
  exact absurd this (by decide)

end Devnest
