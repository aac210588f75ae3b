import Devnest.GatewayAuth

/-!
# Workspace URLs

`build_workspace_url` writes the address of a workspace, and the gateway's
auth endpoint reads it back. In legacy mode the host says the id, and the two
always meet. In tenant mode the resolver tries the legacy forms of a host
first, `ws-<digits>…` and `<digits>.<base domain>`, which the allocators of
slugs do not keep free, and finds the public domain only as it survives the
cleaning of a host.

A deleted workspace that comes back can find its slug given away, and then
either of the two may be found.

`workspace_url_resolves_iff` says for which owners and domains the URL of a
workspace resolves to it.
-/

namespace Devnest

open PyText

/-! ## The builder -/

structure UrlSettings extends RoutingSettings where
  devnestPublicScheme : Option String := none
  devnestGatewayPublicScheme : Option String := some "http"
  devnestPublicPort : Int := 0
  devnestGatewayPublicPort : Int := 0
  deriving DecidableEq, Repr

/-- `(raw or "http").strip().lower().rstrip(":")`. -/
def cleanScheme (raw : Option String) : String :=
  rstripChar ':' (lower (strip (optionOrText raw "http")))

def effectivePublicScheme (s : UrlSettings) : String :=
  let pub := rstripChar ':' (lower (stripOr s.devnestPublicScheme))
  if pub ≠ "" then pub
  else if tenantWorkspaceUrlsEnabled s.toRoutingSettings then "https"
  else cleanScheme s.devnestGatewayPublicScheme

def effectiveBrowserPort (s : UrlSettings) : Int :=
  if 0 < s.devnestPublicPort then s.devnestPublicPort
  else if tenantWorkspaceUrlsEnabled s.toRoutingSettings then 0
  else s.devnestGatewayPublicPort

/-- The `:port` behind a host, unless it is the scheme's own. -/
def portSuffix (scheme : String) (port : Int) : String :=
  let sch := cleanScheme (some scheme)
  if port ≤ 0 then ""
  else if sch = "http" ∧ port = 80 then ""
  else if sch = "https" ∧ port = 443 then ""
  else ":" ++ toString port

def gatewayPublicHostWithPort (host scheme : String) (port : Int) : String :=
  host ++ portSuffix scheme port

structure WorkspaceUrl where
  scheme : String
  host : String
  path : String
  deriving DecidableEq, Repr

def WorkspaceUrl.text (u : WorkspaceUrl) : String := u.scheme ++ "://" ++ u.host ++ u.path

/-- `s.split(":")[0]`. -/
def beforeColon (s : String) : String := String.ofList (s.toList.takeWhile (· ≠ ':'))

def buildWorkspaceUrl (s : UrlSettings) (user : UserAuth) (workspace : WorkspaceAddress) :
    WorkspaceUrl :=
  let scheme := effectivePublicScheme s
  let port := effectiveBrowserPort s
  let sub := lower (stripOr user.routeSubdomainSlug)
  let slug := lower (strip workspace.urlSlug)
  if tenantWorkspaceUrlsEnabled s.toRoutingSettings && sub ≠ "" && slug ≠ "" then
    { scheme := scheme
      host := gatewayPublicHostWithPort
        (sub ++ "." ++ effectivePublicBaseDomain s.toRoutingSettings) scheme port
      path := "/workspaces/" ++ slug }
  else
    let explicit := stripOr workspace.publicHost
    let host := if explicit ≠ "" then beforeColon explicit
      else gatewayUniquePublicHost workspace.workspaceId s.devnestBaseDomain none
    { scheme := scheme, host := gatewayPublicHostWithPort host scheme port, path := "/" }

/-- What the endpoint makes of a URL. -/
def resolveUrl (s : UrlSettings) (urlparsePath : String → String) (d : Directory)
    (url : WorkspaceUrl) : Option Nat :=
  resolveWorkspaceIdFromGatewayRequest s.toRoutingSettings urlparsePath d url.host url.path

/-- The URL of the workspace resolves to it, in whatever order the database has the rows. -/
def UrlResolves (s : UrlSettings) (urlparsePath : String → String) (d : Directory) (u : UserAuth)
    (w : WorkspaceAddress) : Prop :=
  ∀ rows, d.SameRows rows →
    resolveUrl s urlparsePath rows (buildWorkspaceUrl s u w) = some w.workspaceId

/-! ## Which URLs are read back -/

/-- `ws-<digits>`, or that followed by a hyphen and more; the digits are `n`. -/
def LegacyLabel (label : String) (n : Nat) : Prop :=
  ∃ digits rest : List Char, label.toList = 'w' :: 's' :: '-' :: (digits ++ rest)
    ∧ digits ≠ [] ∧ (∀ c ∈ digits, c.isDigit = true)
    ∧ (rest = [] ∨ ∃ more, more ≠ [] ∧ rest = '-' :: more) ∧ parseDigits digits = some n

/-- The public domain with the port, as the clean host has it behind the slug. -/
def hostDomain (s : UrlSettings) : List Char :=
  let domain := gatewayPublicHostWithPort (effectivePublicBaseDomain s.toRoutingSettings)
    (effectivePublicScheme s) (effectiveBrowserPort s)
  lowerChars ((domain.toList.rdropWhile isSpace).takeWhile (· ≠ ':'))

/-- A slug that is a number, under a public domain that is the legacy one. -/
def LegacyNumber (s : UrlSettings) (sub : String) : Prop :=
  (∀ c ∈ sub.toList, c.isDigit = true) ∧ lowerDomain (cleanDomain s.devnestBaseDomain) ≠ ""
    ∧ hostDomain s = (lowerDomain (cleanDomain s.devnestBaseDomain)).toList

/-- The host ends in the public domain, and only blanks and dots stand between it and the
slug. -/
def DomainFound (s : UrlSettings) : Prop :=
  let dom := lowerDomain (effectivePublicBaseDomain s.toRoutingSettings)
  dom ≠ "" ∧ (hostDomain s = dom.toList
    ∨ ∃ between, hostDomain s = between ++ '.' :: dom.toList
      ∧ ∀ c ∈ between.rdropWhile isSpace, c = '.')

/-- No other workspace of the owner that is not deleted has the slug. -/
def SlugAlone (d : Directory) (w : WorkspaceAddress) : Prop :=
  ∀ v ∈ d.workspaces, v.ownerUserId = w.ownerUserId → v.urlSlug = w.urlSlug →
    v.status ≠ .deleted → v.workspaceId = w.workspaceId

/-- The owner's slug is not taken for the number of another workspace, and if it is for no
number, the public domain is found and the workspace's slug is its own. -/
inductive ReadBack (s : UrlSettings) (d : Directory) (sub : String) (w : WorkspaceAddress) : Prop
  | ownLabel (hlabel : LegacyLabel sub w.workspaceId)
  | ownNumber (hlabel : ∀ n, ¬ LegacyLabel sub n) (hnumber : LegacyNumber s sub)
      (hown : parseDigits sub.toList = some w.workspaceId)
  | tenant (hlabel : ∀ n, ¬ LegacyLabel sub n) (hnumber : ¬ LegacyNumber s sub)
      (hdomain : DomainFound s) (halone : SlugAlone d w)

/-- `uuid4().hex`, which every new workspace has as its storage key. -/
def IsUuidHex (key : String) : Prop :=
  key.toList.length = 32 ∧ ∀ c ∈ key.toList, c.isDigit = true ∨ ('a' ≤ c ∧ c ≤ 'f')

instance (key : String) : Decidable (IsUuidHex key) :=
  @instDecidableAnd _ _ (inferInstanceAs (Decidable (key.toList.length = 32)))
    (List.decidableBAll _ key.toList)

/-- Creations store such a key. -/
def DirectoryEvent.KeyedByUuid : DirectoryEvent → Prop
  | .register _ => True
  | .create _ _ key => ∃ k, key = some k ∧ IsUuidHex k
  | .setStatus _ _ => True

/-! ## The clean host of an address -/

/-- A slug with a dot behind it is not touched by the cleaning; the rest is stripped, cut at a
colon and lowered. -/
theorem cleanHost_slug {sub : String} (h : IsSlug sub) (rest : String) :
    (cleanHost (sub ++ "." ++ rest)).toList
      = sub.toList ++ '.' :: lowerChars ((rest.toList.rdropWhile isSpace).takeWhile (· ≠ ':')) := by
  have hne : sub.toList ++ ['.'] ≠ [] := by simp
  have hspace : ∀ c ∈ sub.toList ++ ['.'], isSpace c = false := by
    intro c hc
    rcases List.mem_append.mp hc with hc | hc
    · exact (isSlugChar_cases (h.2 c hc)).1
    · rw [List.mem_singleton.mp hc]
      decide
  have hcolon : ∀ c ∈ sub.toList ++ ['.'], decide (c ≠ ':') = true := by
    intro c hc
    rcases List.mem_append.mp hc with hc | hc
    · simpa using (isSlugChar_cases (h.2 c hc)).2.2.2.1
    · rw [List.mem_singleton.mp hc]
      decide
  have htext : (sub ++ "." ++ rest).toList = sub.toList ++ ['.'] ++ rest.toList := by
    rw [String.toList_append, String.toList_append]
    rfl
  have hstrip : stripChars (sub.toList ++ ['.'] ++ rest.toList)
      = sub.toList ++ ['.'] ++ rest.toList.rdropWhile isSpace :=
    trim_append_eq rest.toList hne hspace
  rw [cleanHost, String.toList_ofList, htext, hstrip, List.takeWhile_append_of_pos hcolon,
    lowerChars_append, lowerChars_append, lowerChars_slug h.2, List.append_assoc]
  rfl

/-- What a text with the slug's label in front has there, split at its first dot. -/
theorem append_dot_inj {a b t u : List Char} (ha : '.' ∉ a) (hb : '.' ∉ b)
    (h : a ++ '.' :: t = b ++ '.' :: u) : a = b ∧ t = u := by
  rcases List.append_eq_append_iff.mp h with ⟨m, hm, ht⟩ | ⟨m, hm, ht⟩
  · cases m with
    | nil => simp_all
    | cons c m =>
        obtain ⟨rfl, -⟩ : '.' = c ∧ _ := by simpa using ht
        exact absurd (by simp [hm]) hb
  · cases m with
    | nil => simp_all
    | cons c m =>
        obtain ⟨rfl, -⟩ : '.' = c ∧ _ := by simpa using ht
        exact absurd (by simp [hm]) ha

/-! ## The legacy forms of a host -/

theorem isDigit_of_slug_dot : Char.isDigit '.' = false := by decide

theorem takeWhile_append_dot {p : Char → Bool} (hp : p '.' = false) (l r : List Char) :
    (l ++ '.' :: r).takeWhile p = l.takeWhile p := by
  induction l with
  | nil => simp [hp]
  | cons c l ih => simp only [List.cons_append, List.takeWhile_cons, ih]

theorem dropWhile_append_dot {p : Char → Bool} (hp : p '.' = false) (l r : List Char) :
    (l ++ '.' :: r).dropWhile p = l.dropWhile p ++ '.' :: r := by
  induction l with
  | nil => simp [hp]
  | cons c l ih =>
      simp only [List.cons_append, List.dropWhile_cons, ih]
      split_ifs <;> rfl

/-- The pattern behind `ws-`. -/
theorem matchWsHost_ws {l digits r : List Char} (h : ∀ c ∈ l, isSlugChar c = true) :
    matchWsHost ('w' :: 's' :: '-' :: (l ++ '.' :: r)) = some digits ↔ ∃ rest, l = digits ++ rest
      ∧ digits ≠ [] ∧ (∀ c ∈ digits, c.isDigit = true)
      ∧ (rest = [] ∨ ∃ more, more ≠ [] ∧ rest = '-' :: more) := by
  have hdot : isSlugChar '.' = false := by decide
  simp only [matchWsHost, takeWhile_append_dot isDigit_of_slug_dot,
    dropWhile_append_dot isDigit_of_slug_dot]
  constructor
  · intro hm
    have hsplit := List.takeWhile_append_dropWhile (p := Char.isDigit) (l := l)
    have hdigits : ∀ c ∈ l.takeWhile Char.isDigit, c.isDigit = true := fun c hc =>
      List.mem_takeWhile_imp hc
    split_ifs at hm with hne
    cases hu : l.dropWhile Char.isDigit with
    | nil =>
        rw [hu] at hm hsplit
        obtain rfl : _ = digits := Option.some.inj hm
        exact ⟨[], hsplit.symm, hne, hdigits, .inl rfl⟩
    | cons d u =>
        have hslug : ∀ c ∈ d :: u, isSlugChar c = true := fun c hc =>
          h c ((List.dropWhile_suffix _).subset (hu ▸ hc))
        have hd : d ≠ '.' := (isSlugChar_cases (hslug d List.mem_cons_self)).2.2.1
        have hu' : ∀ c ∈ u, isSlugChar c = true := fun c hc => hslug c (List.mem_cons_of_mem _ hc)
        rw [hu] at hm hsplit
        by_cases hdash : d = '-'
        · subst hdash
          simp only [List.cons_append, takeWhile_append_dot hdot, dropWhile_append_dot hdot,
            List.takeWhile_eq_self_iff.mpr hu'] at hm
          split_ifs at hm with hmore
          obtain rfl : _ = digits := Option.some.inj hm
          exact ⟨'-' :: u, hsplit.symm, hne, hdigits, .inr ⟨u, hmore, rfl⟩⟩
        · simp [hd, hdash] at hm
  · rintro ⟨rest, rfl, hne, hdigits, hrest⟩
    have hall : digits.takeWhile Char.isDigit = digits := List.takeWhile_eq_self_iff.mpr hdigits
    rcases hrest with rfl | ⟨more, hmore, rfl⟩
    · have hnil : digits.dropWhile Char.isDigit = [] := List.dropWhile_eq_nil_iff.mpr hdigits
      simp [hall, hne, hnil]
    · have hmoreslug : ∀ c ∈ more, isSlugChar c = true := fun c hc => h c (by simp [hc])
      have htake : (digits ++ '-' :: more).takeWhile Char.isDigit = digits := by
        rw [List.takeWhile_append_of_pos hdigits]
        simp
      have hdrop : (digits ++ '-' :: more).dropWhile Char.isDigit = '-' :: more := by
        rw [List.dropWhile_append_of_pos hdigits]
        rfl
      simp only [htake, hdrop, if_neg hne, List.cons_append, takeWhile_append_dot hdot,
        dropWhile_append_dot hdot, List.takeWhile_eq_self_iff.mpr hmoreslug, if_neg hmore,
        List.dropWhile_eq_nil_iff.mpr hmoreslug, List.nil_append, List.head?_cons, if_true]

theorem append_dot_cons {label r t : List Char} {c : Char} (hc : c ≠ '.')
    (h : label ++ '.' :: r = c :: t) : ∃ l, label = c :: l ∧ l ++ '.' :: r = t := by
  cases label with
  | nil => exact absurd (List.cons.inj h).1.symm hc
  | cons d l =>
      obtain ⟨rfl, rfl⟩ := List.cons.inj h
      exact ⟨l, rfl, rfl⟩

/-- The pattern on a slug's label: the digits are all that stand behind `ws-`, or a hyphen and
more follow them. -/
theorem matchWsHost_label {label digits r : List Char} (h : ∀ c ∈ label, isSlugChar c = true) :
    matchWsHost (label ++ '.' :: r) = some digits ↔ ∃ rest,
      label = 'w' :: 's' :: '-' :: (digits ++ rest) ∧ digits ≠ []
        ∧ (∀ c ∈ digits, c.isDigit = true) ∧ (rest = [] ∨ ∃ more, more ≠ [] ∧ rest = '-' :: more) := by
  constructor
  · intro hm
    have hws : ∃ t, label ++ '.' :: r = 'w' :: 's' :: '-' :: t := by
      unfold matchWsHost at hm
      split at hm
      · exact ⟨_, ‹_›⟩
      · cases hm
    obtain ⟨t, ht⟩ := hws
    obtain ⟨l₁, rfl, ht₁⟩ := append_dot_cons (by decide) ht
    obtain ⟨l₂, rfl, ht₂⟩ := append_dot_cons (by decide) ht₁
    obtain ⟨l, rfl, -⟩ := append_dot_cons (by decide) ht₂
    obtain ⟨rest, rfl, hrest⟩ := (matchWsHost_ws fun c hc => h c (by simp [hc])).mp hm
    exact ⟨rest, rfl, hrest⟩
  · rintro ⟨rest, rfl, hrest⟩
    exact (matchWsHost_ws fun c hc => h c (by simp only [List.mem_cons]; tauto)).mpr
      ⟨rest, rfl, hrest⟩

theorem parseDigits_digits {l : List Char} (hne : l ≠ []) (h : ∀ c ∈ l, c.isDigit = true) :
    ∃ n, parseDigits l = some n := by
  obtain ⟨c, t, rfl⟩ := List.exists_cons_of_ne_nil hne
  exact ⟨_, foldl_digits h 0⟩

section Read

variable {sub : String} {host : String} {domain : List Char}

/-- A legacy label is read as its number, whatever follows it. -/
theorem workspaceIdFromHost_legacyLabel (h : IsSlug sub) {n : Nat} (hlabel : LegacyLabel sub n)
    (hclean : (cleanHost host).toList = sub.toList ++ '.' :: domain) (base : String) :
    workspaceIdFromHost host base = some n := by
  obtain ⟨digits, rest, hsub, hne, hdigits, hrest, hparse⟩ := hlabel
  have hmatch : matchWsHost (cleanHost host).toList = some digits := by
    rw [hclean]
    exact (matchWsHost_label h.2).mpr ⟨rest, hsub, hne, hdigits, hrest⟩
  unfold workspaceIdFromHost
  simp only [hmatch]
  exact hparse

/-- Any other label is read as a number if it is one and the domain is the legacy one. -/
theorem workspaceIdFromHost_slug (h : IsSlug sub) (hlabel : ∀ n, ¬ LegacyLabel sub n)
    (hclean : (cleanHost host).toList = sub.toList ++ '.' :: domain) (base : String) (n : Nat) :
    workspaceIdFromHost host base = some n ↔ (∀ c ∈ sub.toList, c.isDigit = true)
      ∧ lowerDomain base ≠ "" ∧ domain = (lowerDomain base).toList
      ∧ parseDigits sub.toList = some n := by
  have hmatch : matchWsHost (cleanHost host).toList = none := by
    cases hm : matchWsHost (cleanHost host).toList with
    | none => rfl
    | some digits =>
        rw [hclean] at hm
        obtain ⟨rest, hsub, hne, hdigits, hrest⟩ := (matchWsHost_label h.2).mp hm
        obtain ⟨k, hk⟩ := parseDigits_digits hne hdigits
        exact absurd ⟨digits, rest, hsub, hne, hdigits, hrest, hk⟩ (hlabel k)
  have hdot : '.' ∉ sub.toList := fun hmem => (isSlugChar_cases (h.2 _ hmem)).2.2.1 rfl
  unfold workspaceIdFromHost
  simp only [hmatch]
  by_cases hdom : lowerDomain base = ""
  · simp [hdom]
  · rw [if_neg hdom, Option.bind_eq_some_iff]
    constructor
    · rintro ⟨p, hp, hread⟩
      split_ifs at hread with hdigits
      have happ := withoutSuffix_append hp
      rw [hclean, String.toList_append] at happ
      have hpdot : '.' ∉ p.toList := fun hmem => by
        have := List.all_eq_true.mp hdigits.2 '.' hmem
        exact absurd this (by decide)
      obtain ⟨hsub, hd⟩ := append_dot_inj hdot hpdot happ
      rw [hsub]
      exact ⟨List.all_eq_true.mp hdigits.2, hdom, hd, hread⟩
    · rintro ⟨hdigits, -, hd, hread⟩
      refine ⟨sub, ?_, ?_⟩
      · have htext : (cleanHost host).toList = sub.toList ++ ("." ++ lowerDomain base).toList := by
          rw [hclean, hd, String.toList_append]
          rfl
        unfold withoutSuffix
        rw [htext, if_pos (List.suffix_append _ _)]
        simp
      · rw [if_pos ⟨h.1, List.all_eq_true.mpr hdigits⟩]
        exact hread

end Read

section Tenant

variable {sub : String} {host : String}

theorem rdropWhile_dots {l : List Char} (hall : ∀ c ∈ l, c = '.') :
    ('.' :: l).rdropWhile (· = '.') = [] := by
  rw [List.rdropWhile_eq_nil_iff]
  intro c hc
  rcases List.mem_cons.mp hc with rfl | hc
  · rfl
  · exact decide_eq_true (hall c hc)

theorem of_rdropWhile_dots {l : List Char} (hno : '.' ∉ ('.' :: l).rdropWhile (· = '.')) :
    ∀ c ∈ l, c = '.' := by
  have hnil : ('.' :: l).rdropWhile (· = '.') = [] := by
    cases hr : ('.' :: l).rdropWhile (· = '.') with
    | nil => rfl
    | cons c t =>
        obtain ⟨u, hu⟩ := List.rdropWhile_prefix (fun c : Char => decide (c = '.')) ('.' :: l)
        rw [hr] at hu
        obtain rfl : c = '.' := (List.cons.inj hu).1
        exact absurd (hr ▸ List.mem_cons_self) hno
  intro c hc
  exact of_decide_eq_true (List.rdropWhile_eq_nil_iff.mp hnil c (List.mem_cons_of_mem _ hc))

/-- What is left of a slug, a dot and more when blanks and then dots are stripped. -/
theorem strip_slug_dot (h : IsSlug sub) {p : String} {between : List Char}
    (hp : p.toList = sub.toList ++ '.' :: between) :
    (stripChar '.' (strip p)).toList
      = sub.toList ++ ('.' :: between.rdropWhile isSpace).rdropWhile (· = '.') := by
  have hne : sub.toList ++ ['.'] ≠ [] := by simp
  have hspace : ∀ c ∈ sub.toList ++ ['.'], isSpace c = false := by
    intro c hc
    rcases List.mem_append.mp hc with hc | hc
    · exact (isSlugChar_cases (h.2 c hc)).1
    · rw [List.mem_singleton.mp hc]
      decide
  have hstrip : stripChars p.toList = sub.toList ++ '.' :: between.rdropWhile isSpace := by
    have htrim := trim_append_eq between hne hspace
    rw [List.append_assoc, List.append_assoc] at htrim
    rw [hp]
    exact htrim
  rw [stripChar, strip, String.toList_ofList, hstrip, String.toList_ofList]
  exact trim_append_eq _ (fun he => h.1 (String.toList_injective (by simpa using he)))
    fun c hc => by simpa using (isSlugChar_cases (h.2 c hc)).2.2.1

/-- The tenant form: the domain stands at the end of the host, and what is between it and the slug
is stripped. -/
theorem parseWorkspaceHost_slug {domain : List Char} (h : IsSlug sub)
    (hclean : (cleanHost host).toList = sub.toList ++ '.' :: domain) (base : String) :
    parseWorkspaceHost host base = some sub ↔ lowerDomain base ≠ ""
      ∧ (domain = (lowerDomain base).toList
        ∨ ∃ between, domain = between ++ '.' :: (lowerDomain base).toList
          ∧ ∀ c ∈ between.rdropWhile isSpace, c = '.') := by
  have hdot : '.' ∉ sub.toList := fun hmem => (isSlugChar_cases (h.2 _ hmem)).2.2.1 rfl
  have hhost : cleanHost host ≠ "" := by
    intro he
    rw [he] at hclean
    simp at hclean
  have hself : stripChar '.' (strip sub) = sub := by
    apply String.toList_injective
    rw [strip, stripChars_slug h.2, String.ofList_toList, stripChar, String.toList_ofList]
    have htrim := trim_append_eq (p := fun c => decide (c = '.')) [] (l := sub.toList)
      (fun he => h.1 (String.toList_injective (by simpa using he)))
      fun c hc => by simpa using (isSlugChar_cases (h.2 c hc)).2.2.1
    simpa using htrim
  have hsuffix : ("." ++ lowerDomain base).toList = '.' :: (lowerDomain base).toList := by
    rw [String.toList_append]
    rfl
  unfold parseWorkspaceHost
  dsimp only
  by_cases hdom : lowerDomain base = ""
  · simp [hdom]
  · rw [if_neg (by simp [hhost, hdom]), Option.bind_eq_some_iff]
    constructor
    · rintro ⟨p, hp, hlabel⟩
      split_ifs at hlabel with hbad
      have happ := withoutSuffix_append hp
      rw [hclean, hsuffix] at happ
      refine ⟨hdom, ?_⟩
      rcases List.append_eq_append_iff.mp happ with ⟨m, hm, ht⟩ | ⟨m, hm, ht⟩
      · cases m with
        | nil => exact .inl (List.cons.inj ht).2
        | cons c between =>
            obtain ⟨rfl, hbetween⟩ := List.cons.inj ht
            refine .inr ⟨between, hbetween, of_rdropWhile_dots fun hmem => ?_⟩
            refine hbad ?_
            rw [Bool.or_eq_true, decide_eq_true_eq, decide_eq_true_eq, strip_slug_dot h hm]
            exact .inr (List.mem_append_right _ hmem)
      · cases m with
        | nil => exact .inl (List.cons.inj ht).2.symm
        | cons c m =>
            obtain ⟨rfl, -⟩ := List.cons.inj ht
            exact absurd (by simp [hm]) hdot
    · rintro ⟨-, hfound⟩
      -- what stands before the domain is the slug, once it is stripped
      obtain ⟨p, hp, hlabel⟩ : ∃ p : String,
          (cleanHost host).toList = p.toList ++ ("." ++ lowerDomain base).toList
            ∧ stripChar '.' (strip p) = sub := by
        rcases hfound with hd | ⟨between, hd, hall⟩
        · exact ⟨sub, by rw [hclean, hd, hsuffix], hself⟩
        · refine ⟨String.ofList (sub.toList ++ '.' :: between), ?_, ?_⟩
          · rw [hclean, hd, hsuffix, String.toList_ofList, List.append_assoc]
            rfl
          · apply String.toList_injective
            rw [strip_slug_dot h (String.toList_ofList ..), rdropWhile_dots hall,
              List.append_nil]
      refine ⟨p, ?_, ?_⟩
      · unfold withoutSuffix
        rw [hp, if_pos (List.suffix_append _ _)]
        simp
      · rw [hlabel, if_neg]
        rw [Bool.or_eq_true, decide_eq_true_eq, decide_eq_true_eq, not_or]
        exact ⟨h.1, hdot⟩

/-- The path of a tenant URL is read as the slug. -/
theorem extract_slugPath (urlparsePath : String → String) {slug : String} (h : IsSlug slug) :
    extractWorkspaceSlugFromPath urlparsePath ("/workspaces/" ++ slug) = some slug := by
  have hplain := workspacePath_plain h.2
  have htext : "/workspaces/" ++ slug = String.ofList (workspacePath slug.toList) := by
    apply String.toList_injective
    rw [String.toList_append]
    exact (String.toList_ofList ..).symm
  have hseg : slug.toList.takeWhile (· ≠ '/') = slug.toList :=
    List.takeWhile_eq_self_iff.mpr fun c hc => by
      simpa using (isSlugChar_cases (h.2 c hc)).2.2.2.2.1
  have hne : slug.toList ≠ [] := fun he => h.1 (String.toList_injective (by simpa using he))
  rw [htext, extract_workspacePath urlparsePath
    (stripChars_of_no_space fun c hc => (hplain c hc).1)
    (List.takeWhile_eq_self_iff.mpr fun c hc => by simpa using (hplain c hc).2)
    (by rw [hseg]; exact hne), hseg]
  simp only [String.ofList_toList, h.lower_strip, if_neg h.1]

end Tenant

/-! ## Tenant URLs -/

section Directory

variable {s : UrlSettings} {d : Directory} {urlparsePath : String → String}

/-- Without a legacy reading the URL resolves to its workspace if its host is read as the owner's
slug and the row found by the path's slug is that of the workspace. -/
theorem resolve_bySlug (h : d.Named) (htenant : tenantWorkspaceUrlsEnabled s.toRoutingSettings = true)
    {u : UserAuth} (hu : u ∈ d.users) {sub : String} (hsub : u.routeSubdomainSlug = some sub)
    (hslug : IsSlug sub) {w : WorkspaceAddress} (hw : w ∈ d.workspaces)
    (howner : u.userAuthId = w.ownerUserId) {host : String} {domain : List Char}
    (hclean : (cleanHost host).toList = sub.toList ++ '.' :: domain)
    (hlegacy : workspaceIdFromHost host (cleanDomain s.devnestBaseDomain) = none) :
    resolveWorkspaceIdFromGatewayRequest s.toRoutingSettings urlparsePath d host
        ("/workspaces/" ++ w.urlSlug) = some w.workspaceId
      ↔ parseWorkspaceHost host (effectivePublicBaseDomain s.toRoutingSettings) = some sub
        ∧ (d.workspaces.find? (hasUrlSlug w.ownerUserId w.urlSlug)).map (·.workspaceId)
          = some w.workspaceId := by
  have hpath : "/workspaces/" ++ w.urlSlug ≠ "" := fun he => by
    have hl := congrArg String.toList he
    simp [String.toList_append] at hl
  unfold resolveWorkspaceIdFromGatewayRequest
  simp only [hlegacy, htenant, Bool.not_true, Bool.false_eq_true, if_false, if_neg hpath,
    extract_slugPath urlparsePath (h.urlSlug w hw), Option.bind_some]
  cases hparse : parseWorkspaceHost host (effectivePublicBaseDomain s.toRoutingSettings) with
  | none => simp
  | some label =>
      obtain rfl := parseWorkspaceHost_label hslug hclean hparse
      simp only [Option.bind_some, h.find_user hu hsub, howner, true_and]

/-- Whatever the order of the rows, the slug of a workspace finds it exactly if no other one has
it. -/
theorem find_urlSlug_iff (h : d.Named) {w : WorkspaceAddress} (hw : w ∈ d.workspaces)
    (hnd : w.status ≠ .deleted) :
    (∀ rows, d.SameRows rows →
        (rows.workspaces.find? (hasUrlSlug w.ownerUserId w.urlSlug)).map (·.workspaceId)
          = some w.workspaceId)
      ↔ SlugAlone d w := by
  have hslug := h.urlSlug w hw
  constructor
  · intro hfinds v hv hown hurl hvd
    obtain ⟨rows, hsame, hfirst⟩ :=
      Directory.exists_first hv ((h.hasUrlSlug_iff hv hslug).mpr ⟨hown, hurl, hvd⟩)
    have hfound := hfinds rows hsame
    rw [hfirst] at hfound
    exact Option.some.inj hfound
  · intro halone rows hsame
    have hrows := h.sameRows hsame
    have hwrows := hsame.2.mem_iff.mpr hw
    cases hf : rows.workspaces.find? (hasUrlSlug w.ownerUserId w.urlSlug) with
    | none =>
        have hmatch := (hrows.hasUrlSlug_iff hwrows hslug).mpr ⟨rfl, rfl, hnd⟩
        exact absurd hmatch (List.find?_eq_none.mp hf w hwrows)
    | some v =>
        have hv := List.mem_of_find?_eq_some hf
        obtain ⟨hown, hurl, hvd⟩ := (hrows.hasUrlSlug_iff hv hslug).mp (List.find?_some hf)
        exact congrArg some (halone v (hsame.2.mem_iff.mp hv) hown hurl hvd)

/-- The host of a tenant URL is read as `ReadBack` says. -/
theorem resolve_tenant_iff (h : d.Named)
    (htenant : tenantWorkspaceUrlsEnabled s.toRoutingSettings = true) {u : UserAuth}
    (hu : u ∈ d.users) {sub : String} (hsub : u.routeSubdomainSlug = some sub)
    (hslug : IsSlug sub) {w : WorkspaceAddress} (hw : w ∈ d.workspaces) (hnd : w.status ≠ .deleted)
    (howner : u.userAuthId = w.ownerUserId) {host : String}
    (hclean : (cleanHost host).toList = sub.toList ++ '.' :: hostDomain s) :
    (∀ rows, d.SameRows rows →
        resolveWorkspaceIdFromGatewayRequest s.toRoutingSettings urlparsePath rows host
          ("/workspaces/" ++ w.urlSlug) = some w.workspaceId)
      ↔ ReadBack s d sub w := by
  -- a legacy reading does not look at the rows
  have hlegacy : ∀ {n}, workspaceIdFromHost host (cleanDomain s.devnestBaseDomain) = some n →
      ((∀ rows, d.SameRows rows →
        resolveWorkspaceIdFromGatewayRequest s.toRoutingSettings urlparsePath rows host
          ("/workspaces/" ++ w.urlSlug) = some w.workspaceId) ↔ n = w.workspaceId) := by
    intro n hn
    simp only [resolveWorkspaceIdFromGatewayRequest, hn, Option.some.injEq]
    exact ⟨fun hall => hall d ⟨List.Perm.refl _, List.Perm.refl _⟩, fun heq _ _ => heq⟩
  by_cases hlabel : ∃ n, LegacyLabel sub n
  · obtain ⟨n, hn⟩ := hlabel
    have hread := workspaceIdFromHost_legacyLabel hslug hn hclean (cleanDomain s.devnestBaseDomain)
    rw [hlegacy hread]
    constructor
    · intro heq
      exact .ownLabel (heq ▸ hn)
    · rintro (hown | ⟨hno, -, -⟩ | ⟨hno, -, -, -⟩)
      · exact Option.some.inj
          (hread.symm.trans (workspaceIdFromHost_legacyLabel hslug hown hclean _))
      · exact absurd hn (hno n)
      · exact absurd hn (hno n)
  · have hno : ∀ n, ¬ LegacyLabel sub n := fun n hn => hlabel ⟨n, hn⟩
    have hread := workspaceIdFromHost_slug hslug hno hclean (cleanDomain s.devnestBaseDomain)
    by_cases hnumber : LegacyNumber s sub
    · obtain ⟨n, hn⟩ := parseDigits_digits
        (fun he => hslug.1 (String.toList_injective (by simpa using he))) hnumber.1
      rw [hlegacy ((hread n).mpr ⟨hnumber.1, hnumber.2.1, hnumber.2.2, hn⟩)]
      constructor
      · intro heq
        exact .ownNumber hno hnumber (heq ▸ hn)
      · rintro (hown | ⟨-, -, hown⟩ | ⟨-, hnot, -, -⟩)
        · exact absurd hown (hno _)
        · exact Option.some.inj (hn.symm.trans hown)
        · exact absurd hnumber hnot
    · have hnone : workspaceIdFromHost host (cleanDomain s.devnestBaseDomain) = none := by
        cases hid : workspaceIdFromHost host (cleanDomain s.devnestBaseDomain) with
        | none => rfl
        | some n =>
            obtain ⟨hdigits, hdom, hd, -⟩ := (hread n).mp hid
            exact absurd ⟨hdigits, hdom, hd⟩ hnumber
      have hrow : ∀ rows, d.SameRows rows →
          (resolveWorkspaceIdFromGatewayRequest s.toRoutingSettings urlparsePath rows host
              ("/workspaces/" ++ w.urlSlug) = some w.workspaceId ↔ _) := fun rows hsame =>
        resolve_bySlug (h.sameRows hsame) htenant (hsame.1.mem_iff.mpr hu) hsub hslug
          (hsame.2.mem_iff.mpr hw) howner hclean hnone
      rw [forall₂_congr hrow, parseWorkspaceHost_slug hslug hclean]
      constructor
      · intro hall
        have hfound := hall d ⟨List.Perm.refl _, List.Perm.refl _⟩
        exact .tenant hno hnumber hfound.1
          ((find_urlSlug_iff h hw hnd).mp fun rows hsame => (hall rows hsame).2)
      · rintro (hown | ⟨-, hyes, -⟩ | ⟨-, -, hfound, halone⟩)
        · exact absurd hown (hno _)
        · exact absurd hyes hnumber
        · exact fun rows hsame => ⟨hfound, (find_urlSlug_iff h hw hnd).mpr halone rows hsame⟩

/-! ## Legacy URLs -/

theorem isSlugChar_of_isDigit {c : Char} (h : c.isDigit = true) : isSlugChar c = true := by
  simp only [Char.isDigit, Bool.and_eq_true, decide_eq_true_eq] at h
  have hdig : ('0' ≤ c && c ≤ '9') = true := by simpa [Char.le_def] using h
  simp [isSlugChar, hdig]

/-- The label of a legacy host: the id, and a storage key. -/
theorem legacyLabel_of_key (workspaceId : Nat) {suffix : List Char}
    (hsuffix : suffix = [] ∨ ∃ key, key ≠ [] ∧ suffix = '-' :: key)
    (hkey : ∀ c ∈ suffix, isSlugChar c = true) :
    let label := String.ofList ("ws-".toList ++ (toString workspaceId).toList ++ suffix)
    IsSlug label ∧ LegacyLabel label workspaceId := by
  have hdigit : ∀ c ∈ (toString workspaceId).toList, c.isDigit = true :=
    fun _ => isDigit_of_mem_toString
  have hne : (toString workspaceId).toList ≠ [] := fun he => by
    have hparse := parseDigits_toString workspaceId
    rw [he] at hparse
    cases hparse
  refine ⟨⟨fun he => ?_, fun c hc => ?_⟩, (toString workspaceId).toList, suffix, ?_, hne, hdigit,
    hsuffix, parseDigits_toString workspaceId⟩
  · have hl := congrArg String.toList he
    simp at hl
  · rw [String.toList_ofList] at hc
    rcases List.mem_append.mp hc with hc | hc
    · rcases List.mem_append.mp hc with hc | hc
      · have hall : ("ws-".toList.all isSlugChar) = true := by decide
        exact List.all_eq_true.mp hall c hc
      · exact isSlugChar_of_isDigit (hdigit c hc)
    · exact hkey c hc
  · rw [String.toList_ofList, List.append_assoc]
    rfl

/-- The host under which a workspace is known in legacy mode. -/
theorem gatewayUniquePublicHost_label (workspaceId : Nat) (baseDomain : Option String)
    {key : Option String} (hkey : ∀ k, key = some k → IsUuidHex k) :
    ∃ label rest, IsSlug label ∧ LegacyLabel label workspaceId
      ∧ gatewayUniquePublicHost workspaceId baseDomain key = label ++ "." ++ rest := by
  have hslug : ∀ c ∈ (lower (stripOr key)).toList, isSlugChar c = true := by
    cases key with
    | none =>
        intro c hc
        cases hc
    | some k =>
        have hk : ∀ c ∈ k.toList, isSlugChar c = true := by
          intro c hc
          rcases (hkey k rfl).2 c hc with hd | ⟨ha, hf⟩
          · exact isSlugChar_of_isDigit hd
          · have hfz : ('f' : Char) ≤ 'z' := by decide
            have hz : c ≤ 'z' := Char.le_trans hf hfz
            simp [isSlugChar, isLetter, ha, hz]
        show ∀ c ∈ (lower (strip k)).toList, _
        rw [lower, strip, String.toList_ofList, stripChars_slug hk, String.toList_ofList,
          lowerChars_slug hk]
        exact hk
  unfold gatewayUniquePublicHost
  dsimp only
  generalize lower (stripOr key) = suffix at hslug
  by_cases hempty : suffix = ""
  · obtain ⟨hlabel, hlegacy⟩ := legacyLabel_of_key workspaceId (.inl rfl) (by simp)
    have htext : "ws-" ++ toString workspaceId ++ (if suffix ≠ "" then "-" ++ suffix else "")
        = String.ofList ("ws-".toList ++ (toString workspaceId).toList ++ []) := by
      apply String.toList_injective
      rw [if_neg (by simpa using hempty)]
      simp [String.toList_append]
    rw [htext]
    exact ⟨_, _, hlabel, hlegacy, rfl⟩
  · have hne : suffix.toList ≠ [] := fun he => hempty (String.toList_injective (by simpa using he))
    obtain ⟨hlabel, hlegacy⟩ := legacyLabel_of_key workspaceId (.inr ⟨suffix.toList, hne, rfl⟩)
      (by
        intro c hc
        rcases List.mem_cons.mp hc with rfl | hc
        · decide
        · exact hslug c hc)
    have htext : "ws-" ++ toString workspaceId ++ (if suffix ≠ "" then "-" ++ suffix else "")
        = String.ofList ("ws-".toList ++ (toString workspaceId).toList ++ '-' :: suffix.toList) := by
      apply String.toList_injective
      rw [if_pos hempty]
      simp [String.toList_append]
    rw [htext]
    exact ⟨_, _, hlabel, hlegacy, rfl⟩

/-- A legacy host is read as its id, whatever stands behind the label. -/
theorem workspaceIdFromHost_legacyHost {label : String} (h : IsSlug label) {n : Nat}
    (hlabel : LegacyLabel label n) (rest base : String) :
    workspaceIdFromHost (label ++ "." ++ rest) base = some n :=
  workspaceIdFromHost_legacyLabel h hlabel (cleanHost_slug h rest) base

/-- Stripping and the cut at a colon keep the label. -/
theorem beforeColon_strip {label : String} (h : IsSlug label) (rest : String) :
    strip (label ++ "." ++ rest) ≠ ""
      ∧ ∃ rest', beforeColon (strip (label ++ "." ++ rest)) = label ++ "." ++ rest' := by
  have hne : label.toList ++ ['.'] ≠ [] := by simp
  have hplain : ∀ c ∈ label.toList ++ ['.'], isSpace c = false ∧ c ≠ ':' := by
    intro c hc
    rcases List.mem_append.mp hc with hc | hc
    · exact ⟨(isSlugChar_cases (h.2 c hc)).1, (isSlugChar_cases (h.2 c hc)).2.2.2.1⟩
    · rw [List.mem_singleton.mp hc]
      decide
  have htext : (label ++ "." ++ rest).toList = label.toList ++ ['.'] ++ rest.toList := by
    rw [String.toList_append, String.toList_append]
    rfl
  have hstrip : strip (label ++ "." ++ rest)
      = String.ofList (label.toList ++ ['.'] ++ rest.toList.rdropWhile isSpace) := by
    rw [strip, htext]
    exact congrArg String.ofList (trim_append_eq rest.toList hne fun c hc => (hplain c hc).1)
  rw [hstrip]
  refine ⟨fun he => ?_, String.ofList ((rest.toList.rdropWhile isSpace).takeWhile (· ≠ ':')), ?_⟩
  · have hl := congrArg String.toList he
    simp at hl
  · apply String.toList_injective
    rw [beforeColon, String.toList_ofList, String.toList_ofList, List.takeWhile_append_of_pos
      fun c hc => by simpa using (hplain c hc).2]
    simp only [String.toList_append, String.toList_ofList]
    rfl

/-- In legacy mode the host of the URL is a legacy host. -/
theorem buildWorkspaceUrl_legacy (hlegacy : tenantWorkspaceUrlsEnabled s.toRoutingSettings = false)
    {u : UserAuth} {w : WorkspaceAddress} {sub : String}
    (hident : HasIdentity s.toRoutingSettings w sub)
    (hkey : ∀ k, w.projectStorageKey = some k → IsUuidHex k) :
    ∃ label rest, IsSlug label ∧ LegacyLabel label w.workspaceId
      ∧ (buildWorkspaceUrl s u w).host = label ++ "." ++ rest := by
  unfold buildWorkspaceUrl gatewayPublicHostWithPort
  simp only [hlegacy, Bool.false_and, Bool.false_eq_true, if_false]
  unfold HasIdentity at hident
  split_ifs at hident with hgw htenant
  · obtain ⟨label, rest, hslug, hlabel, heq⟩ :=
      @gatewayUniquePublicHost_label w.workspaceId s.devnestBaseDomain none (by simp)
    refine ⟨label, rest ++ portSuffix (effectivePublicScheme s) (effectiveBrowserPort s), hslug,
      hlabel, ?_⟩
    have hnone : stripOr w.publicHost = "" := by rw [hident]; rfl
    rw [if_neg (by simp [hnone]), heq, String.append_assoc]
  · rw [hlegacy] at htenant
    cases htenant
  · obtain ⟨label, rest, hslug, hlabel, heq⟩ :=
      gatewayUniquePublicHost_label w.workspaceId s.devnestBaseDomain hkey
    have hhost : stripOr w.publicHost = strip (label ++ "." ++ rest) := by rw [hident, heq]; rfl
    obtain ⟨hne, rest', hcut⟩ := beforeColon_strip hslug rest
    refine ⟨label, rest' ++ portSuffix (effectivePublicScheme s) (effectiveBrowserPort s), hslug,
      hlabel, ?_⟩
    rw [hhost, if_pos hne, hcut, String.append_assoc]

/-- In tenant mode the host of the URL is the owner's slug and the public domain. -/
theorem buildWorkspaceUrl_tenant (htenant : tenantWorkspaceUrlsEnabled s.toRoutingSettings = true)
    {u : UserAuth} {w : WorkspaceAddress} {sub : String} (hsub : u.routeSubdomainSlug = some sub)
    (hslug : IsSlug sub) (hurl : IsSlug w.urlSlug) :
    buildWorkspaceUrl s u w =
      { scheme := effectivePublicScheme s
        host := sub ++ "." ++ gatewayPublicHostWithPort
          (effectivePublicBaseDomain s.toRoutingSettings) (effectivePublicScheme s)
          (effectiveBrowserPort s)
        path := "/workspaces/" ++ w.urlSlug } := by
  have hlower : lower (stripOr u.routeSubdomainSlug) = sub := by
    rw [hsub]
    exact hslug.lower_strip
  unfold buildWorkspaceUrl gatewayPublicHostWithPort
  simp only [htenant, hlower, hurl.lower_strip, Bool.true_and]
  rw [if_pos (by simp [hslug.1, hurl.1])]
  simp only [String.append_assoc]

end Directory

/-! ## Every directory -/

/-- Every workspace of the directory has the key its creation drew. -/
theorem storageKeys_run (s : RoutingSettings) {events : List DirectoryEvent}
    (hkeys : ∀ e ∈ events, e.KeyedByUuid) :
    ∀ w ∈ (Runs.run (Directory.step s) .empty events).workspaces, ∀ k,
      w.projectStorageKey = some k → IsUuidHex k := by
  refine Runs.run_of_along (P := fun _ (e : DirectoryEvent) => e.KeyedByUuid)
    (Q := fun d : Directory => ∀ w ∈ d.workspaces, ∀ k, w.projectStorageKey = some k → IsUuidHex k)
    (fun w hw => by cases hw) ?_ (Runs.along_input.mpr hkeys)
  intro d e h he
  cases e with
  | register username => exact h
  | create owner name key =>
      simp only [Directory.step]
      split_ifs
      · intro w hw k hk
        rcases List.mem_append.mp hw with hw | hw
        · exact h w hw k hk
        · rw [List.mem_singleton.mp hw, (newWorkspace_spec s d owner name key).2.2.1] at hk
          obtain ⟨k', hk', huuid⟩ := he
          obtain rfl := Option.some.inj (hk'.symm.trans hk)
          exact huuid
      · exact h
  | setStatus wid status =>
      intro w' hw' k hk
      obtain ⟨w, hw, heq⟩ := setStatus_same hw'
      rw [heq] at hk
      exact h w hw k hk

/-- The URL of a workspace that is not deleted resolves to it, in legacy mode always, and in
tenant mode exactly when its host is read back: the owner's slug is no number of another
workspace, the public domain is found, and no other workspace of the owner has its slug. -/
theorem workspace_url_resolves_iff (s : UrlSettings) (urlparsePath : String → String)
    (events : List DirectoryEvent) (hkeys : ∀ e ∈ events, e.KeyedByUuid) {u : UserAuth}
    {w : WorkspaceAddress}
    (hu : u ∈ (Runs.run (Directory.step s.toRoutingSettings) .empty events).users)
    (hw : w ∈ (Runs.run (Directory.step s.toRoutingSettings) .empty events).workspaces)
    (hnd : w.status ≠ .deleted) (howner : u.userAuthId = w.ownerUserId) :
    UrlResolves s urlparsePath (Runs.run (Directory.step s.toRoutingSettings) .empty events) u w
      ↔ (tenantWorkspaceUrlsEnabled s.toRoutingSettings = true →
        ReadBack s (Runs.run (Directory.step s.toRoutingSettings) .empty events)
          (u.routeSubdomainSlug.getD "") w) := by
  obtain ⟨h, hident⟩ := named_run s.toRoutingSettings events
  have hkey := storageKeys_run s.toRoutingSettings hkeys w hw
  generalize Runs.run (Directory.step s.toRoutingSettings) .empty events = d at *
  obtain ⟨u', hu', sub, howner', hsub, hidentity⟩ := hident w hw
  obtain rfl : u = u' := h.user_id_ext hu hu' (howner.trans howner'.symm)
  obtain ⟨sub', hsub', hslug⟩ := h.userSlug u hu
  obtain rfl := Option.some.inj (hsub.symm.trans hsub')
  cases htenant : tenantWorkspaceUrlsEnabled s.toRoutingSettings with
  | false =>
      obtain ⟨label, rest, hlabelslug, hlabel, hhost⟩ :=
        buildWorkspaceUrl_legacy (u := u) htenant hidentity hkey
      refine iff_of_true (fun rows _ => ?_) fun hno => by cases hno
      unfold resolveUrl resolveWorkspaceIdFromGatewayRequest
      simp only [hhost, workspaceIdFromHost_legacyHost hlabelslug hlabel]
  | true =>
      have hiff := @resolve_tenant_iff s d urlparsePath h htenant _ hu _ hsub hslug _ hw hnd
        howner _ (cleanHost_slug hslug _)
      unfold UrlResolves resolveUrl
      rw [buildWorkspaceUrl_tenant htenant hsub hslug (h.urlSlug w hw), hsub, Option.getD_some]
      exact ⟨fun hres _ => hiff.mp hres, fun hread => hiff.mpr (hread rfl)⟩

/-- Two users with one workspace each. -/
def twoOwners (first second : String) : List DirectoryEvent :=
  [.register first, .register second,
    .create 1 "proj" (some "6f1c0e5a9b3d4c7e8a2f1b0c9d8e7f6a"),
    .create 2 "site" (some "0a1b2c3d4e5f60718293a4b5c6d7e8f9")]

def sampleUrls : UrlSettings := { toRoutingSettings := sampleRouting }

theorem isUuidHex_of_chars {l : List Char} (hlen : l.length = 32)
    (h : l.all (fun c => c.isDigit || ('a' ≤ c && c ≤ 'f')) = true) :
    IsUuidHex (String.ofList l) := by
  unfold IsUuidHex
  rw [String.toList_ofList]
  refine ⟨hlen, fun c hc => ?_⟩
  have hchar := List.all_eq_true.mp h c hc
  simpa using hchar

/-- `bob` deletes his site and makes it again. -/
def remadeSite : List DirectoryEvent :=
  twoOwners "alice" "bob" ++
    [.setStatus 2 .deleted, .create 2 "site" (some "b1b2c3d4e5f60718293a4b5c6d7e8f90")]

/-- The new site, which has the slug of the deleted one. -/
def bobsSite : WorkspaceAddress :=
  newWorkspace sampleUrls.toRoutingSettings
    (Runs.run (Directory.step sampleUrls.toRoutingSettings) .empty (remadeSite.take 5)) 2 "site"
    (some "b1b2c3d4e5f60718293a4b5c6d7e8f90")

theorem ordinary_url_resolves :
    UrlResolves sampleUrls id
      (Runs.run (Directory.step sampleUrls.toRoutingSettings) .empty remadeSite) ⟨2, some "bob"⟩
      bobsSite := by
  refine (workspace_url_resolves_iff sampleUrls id remadeSite ?_ (by decide +kernel)
    (by decide +kernel) (by decide +kernel) (by decide +kernel)).mpr fun _ => ?_
  · simp only [remadeSite, twoOwners, List.cons_append, List.nil_append, List.forall_mem_cons]
    exact ⟨trivial, trivial, ⟨_, rfl, isUuidHex_of_chars rfl (by decide)⟩,
      ⟨_, rfl, isUuidHex_of_chars rfl (by decide)⟩, trivial,
      ⟨_, rfl, isUuidHex_of_chars rfl (by decide)⟩, fun e he => by cases he⟩
  · refine .tenant (fun n hn => ?_) (fun hn => ?_) ⟨by decide +kernel, .inl (by decide +kernel)⟩ ?_
    · obtain ⟨digits, rest, hsub, -⟩ := hn
      exact absurd (List.cons.inj hsub).1 (by decide)
    · exact absurd (hn.1 'b' (by decide)) (by decide)
    · unfold SlugAlone
      decide +kernel

/-- A user called `ws-1` has a URL that resolves to workspace 1, which is another user's. -/
theorem legacy_name_url_misleads :
    ∃ u ∈ (Runs.run (Directory.step sampleUrls.toRoutingSettings) .empty
        (twoOwners "alice" "ws-1")).users,
      ∃ w ∈ (Runs.run (Directory.step sampleUrls.toRoutingSettings) .empty
        (twoOwners "alice" "ws-1")).workspaces,
        w.status ≠ .deleted ∧ u.userAuthId = w.ownerUserId ∧ w.workspaceId = 2
          ∧ resolveUrl sampleUrls id (Runs.run (Directory.step sampleUrls.toRoutingSettings) .empty
            (twoOwners "alice" "ws-1")) (buildWorkspaceUrl sampleUrls u w) = some 1 := by
  decide +kernel

end Devnest
