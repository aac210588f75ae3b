import Devnest.ContainerEngine

/-!
# Ensuring a container twice

`ensure_container` reuses the container it finds if the bind mounts fit. It
creates them from the project mount, the workspace path and the extra mounts,
but asks the container it finds only about the workspace path (never
read-only) and the extra mounts. `NewFits` says when the two agree, and
`ensure_twice_iff` when a second call is satisfied with the first one's
container.
-/

namespace Devnest

open PyText DockerRuntimeAdapter

/-! ## The condition -/

/-- `ensure_container` finds a container with the mounts it asks for. -/
def Reuses (e : DockerEngine) (req : ContainerRequest) : Prop :=
  ∃ i c, existingContainer e req = some (i, c) ∧
    mountsFit req.workspaceHostPath req.extraBindMounts c = true

/-- The mounts of a container made for the request are the ones the request asks for: with a
workspace path, unless the project mount is read-only; without one, if there is nothing to ask. -/
def NewFits (req : ContainerRequest) : Prop :=
  if stripOr req.workspaceHostPath = "" then req.extraBindMounts = []
  else req.projectMount.any (·.readOnly) = false

/-- In place of the container that is replaced, the id or the name of the request finds another,
and the new container does not get that id. -/
def FindsOther (e : DockerEngine) (ans : EngineAnswers) (req : ContainerRequest) : Prop :=
  ∃ i c, existingContainer e req = some (i, c) ∧ existingContainer (e.remove i) req ≠ none ∧
    ans.createId ≠ .ok (stripOr req.existingContainerId)

/-- A further call returns the container, made by nobody now, and leaves the engine alone. -/
def SatisfiedWith (e : DockerEngine) (req : ContainerRequest) (id : String) : Prop :=
  ∀ ans, ∃ r, ensureContainer e ans req = (e, .ok r) ∧ r.containerId = id ∧ r.createdNew = false

/-! ## Bind mounts -/

theorem extraBinds_cons {seen : List String} {b : BindMount} {l extra : List BindMount}
    (h : extraBinds seen (b :: l) = .ok extra) :
    ∃ seen' rest, extraBinds seen' l = .ok rest ∧
      extra = ⟨strip b.hostPath, strip b.containerPath, b.readOnly⟩ :: rest := by
  unfold extraBinds at h
  dsimp only at h
  generalize (if rstripChar '/' (strip b.containerPath) = "" then "/"
    else rstripChar '/' (strip b.containerPath)) = dest at h
  by_cases hempty : (strip b.hostPath = "" || strip b.containerPath = "") = true
  · rw [if_pos hempty] at h
    cases h
  · rw [if_neg hempty] at h
    by_cases hproject : dest = workspaceProjectContainerPath
    · rw [if_pos hproject] at h
      cases h
    · rw [if_neg hproject] at h
      by_cases hseen : dest ∈ seen
      · rw [if_pos hseen] at h
        cases h
      · rw [if_neg hseen] at h
        cases hrest : extraBinds (dest :: seen) l with
        | error m =>
            rw [hrest] at h
            cases h
        | ok rest =>
            rw [hrest] at h
            exact ⟨_, rest, hrest, (Except.ok.inj h).symm⟩

/-- The extra binds that are made have the signatures that are asked for. -/
theorem extraBinds_signatures {seen : List String} {l extra : List BindMount}
    (h : extraBinds seen l = .ok extra) :
    extra.map bindMountSignature =
      l.map fun b => bindMountSignature { b with containerPath := strip b.containerPath } := by
  induction l generalizing seen extra with
  | nil =>
      have hnil : extra = [] := by
        unfold extraBinds at h
        exact (Except.ok.inj h).symm
      rw [hnil, List.map_nil, List.map_nil]
  | cons b l ih =>
      obtain ⟨seen', rest, hrest, hextra⟩ := extraBinds_cons h
      rw [hextra, List.map_cons, List.map_cons, ih hrest]
      simp [bindMountSignature]

theorem perm_cons_same_iff {α : Type} [DecidableEq α] {a b : α} {l : List α} :
    (a :: l).Perm (b :: l) ↔ a = b := by
  constructor
  · intro h
    by_contra hne
    have hcount := h.count_eq a
    rw [List.count_cons_self, List.count_cons_of_ne (Ne.symm hne)] at hcount
    omega
  · rintro rfl
    exact .refl _

theorem not_perm_cons_self {α : Type} {a : α} {l : List α} : ¬ (a :: l).Perm l := by
  intro h
  have := h.length_eq
  simp at this

theorem chosenHostPath_ok {pm : Option WorkspaceProjectMountSpec} {whp : Option String}
    {chosen : String} (h : chosenHostPath pm whp = .ok chosen) :
    strip chosen = chosen ∧ (stripOr whp ≠ "" → chosen = stripOr whp) := by
  have hpm : strip (stripOr (pm.map (·.hostPath))) = stripOr (pm.map (·.hostPath)) :=
    strip_strip _
  have hwh : strip (stripOr whp) = stripOr whp := strip_strip _
  unfold chosenHostPath at h
  dsimp only at h
  generalize stripOr (pm.map (·.hostPath)) = pmRaw at h hpm
  generalize stripOr whp = whRaw at h hwh ⊢
  by_cases hagree : pmRaw ≠ "" ∧ whRaw ≠ "" ∧ pmRaw ≠ whRaw
  · rw [if_pos hagree] at h
    cases h
  · rw [if_neg hagree] at h
    by_cases hblank : (if pmRaw ≠ "" then pmRaw else whRaw) = ""
    · rw [if_pos hblank] at h
      cases h
    · rw [if_neg hblank] at h
      rw [← Except.ok.inj h]
      by_cases hraw : pmRaw ≠ ""
      · rw [if_pos hraw]
        refine ⟨hpm, fun hw => ?_⟩
        by_contra hne
        exact hagree ⟨hraw, hw, hne⟩
      · rw [if_neg hraw]
        exact ⟨hwh, fun _ => rfl⟩

/-- The host path of a creation is trimmed and absolute, and that of the workspace if there is
one. -/
theorem resolveProjectHostPath_ok {pm : Option WorkspaceProjectMountSpec} {whp : Option String}
    {hostPath : String} {ro : Bool}
    (h : resolveProjectHostPathForCreate pm whp = .ok (hostPath, ro)) :
    strip hostPath = hostPath ∧ startsWith hostPath "/" = true ∧ ro = pm.any (·.readOnly) ∧
      (stripOr whp ≠ "" → hostPath = stripOr whp) := by
  unfold resolveProjectHostPathForCreate at h
  cases hchosen : chosenHostPath pm whp with
  | error m =>
      rw [hchosen] at h
      cases h
  | ok chosen =>
      rw [hchosen] at h
      dsimp only at h
      by_cases habs : (!startsWith chosen "/") = true
      · rw [if_pos habs] at h
        cases h
      · rw [if_neg habs] at h
        obtain ⟨rfl, rfl⟩ := Prod.mk.inj (Except.ok.inj h)
        obtain ⟨hstrip, hwh⟩ := chosenHostPath_ok hchosen
        exact ⟨hstrip, by simpa using habs, rfl, hwh⟩

theorem requestedBindSignatures_of_path {whp : Option String} {extra : List BindMount}
    (hwh : stripOr whp ≠ "") (habs : startsWith (stripOr whp) "/" = true) :
    requestedBindSignatures whp extra =
      .ok (some (⟨stripOr whp, workspaceProjectContainerPath, false⟩ :: extra.map fun b =>
        bindMountSignature { b with containerPath := strip b.containerPath })) := by
  have hnone : stripOr ((none : Option WorkspaceProjectMountSpec).map (·.hostPath)) = "" := by
    decide
  have hchosen : chosenHostPath none whp = .ok (stripOr whp) := by
    unfold chosenHostPath
    dsimp only
    rw [hnone, if_neg fun h => h.1 rfl, if_neg (not_not.mpr rfl), if_neg hwh]
  have hresolve : resolveProjectHostPathForCreate none whp = .ok (stripOr whp, false) := by
    unfold resolveProjectHostPathForCreate
    rw [hchosen]
    dsimp only
    rw [habs, if_neg (by simp)]
    rfl
  unfold requestedBindSignatures
  dsimp only
  rw [if_neg hwh, hresolve]
  rfl

/-- **What a creation makes** fits the request exactly if `NewFits` says so. -/
theorem mountsFit_created {req : ContainerRequest} {hostPath : String} {ro : Bool}
    {extra : List BindMount} {c : WorkspaceContainer}
    (hpath : resolveProjectHostPathForCreate req.projectMount req.workspaceHostPath =
      .ok (hostPath, ro))
    (hextra : extraBinds [] req.extraBindMounts = .ok extra)
    (hbinds : c.binds = ⟨hostPath, workspaceProjectContainerPath, ro⟩ :: extra) :
    mountsFit req.workspaceHostPath req.extraBindMounts c = true ↔ NewFits req := by
  obtain ⟨hstrip, habs, hro, hwh⟩ := resolveProjectHostPath_ok hpath
  have hsig : c.binds.map bindMountSignature =
      ⟨hostPath, workspaceProjectContainerPath, ro⟩ :: req.extraBindMounts.map fun b =>
        bindMountSignature { b with containerPath := strip b.containerPath } := by
    have hcontainer : rstripChar '/' workspaceProjectContainerPath =
        workspaceProjectContainerPath := by decide
    rw [hbinds, List.map_cons, extraBinds_signatures hextra]
    simp [bindMountSignature, hstrip, hcontainer]
  unfold NewFits
  by_cases hblank : stripOr req.workspaceHostPath = ""
  · rw [if_pos hblank]
    unfold mountsFit requestedBindSignatures
    rw [if_pos hblank]
    cases hmounts : req.extraBindMounts with
    | nil => simp [bindsDiffer]
    | cons b l =>
        refine iff_of_false (fun hfit => ?_) (by simp)
        rw [hmounts] at hsig
        dsimp only at hfit
        rw [if_neg (by simp)] at hfit
        unfold bindsDiffer at hfit
        rw [Bool.not_not, hsig] at hfit
        exact not_perm_cons_self (List.isPerm_iff.mp hfit)
  · rw [if_neg hblank]
    unfold mountsFit
    rw [requestedBindSignatures_of_path hblank (hwh hblank ▸ habs)]
    dsimp only
    unfold bindsDiffer
    rw [Bool.not_not, hsig, List.isPerm_iff, perm_cons_same_iff, hwh hblank, hro]
    simp

/-! ## Finding the container -/

theorem create_ok {e e' : DockerEngine} {id : String} {c : WorkspaceContainer}
    (h : e.create id c = .ok e') :
    id ≠ "" ∧ e.containers.lookup id = none ∧
      (∀ j d, e.containers.lookup j = some d → d.name ≠ c.name) ∧
      ∀ j, e'.containers.lookup j = if j = id then some c else e.containers.lookup j := by
  unfold DockerEngine.create at h
  split at h
  next hok =>
    obtain rfl := Except.ok.inj h
    exact ⟨hok.1.1, hok.1.2.2, fun j d hd => hok.2 ⟨j, d⟩ (AList.mem_lookup_iff.mp hd),
      fun j => Table.lookup_insert_eq ..⟩
  next => cases h

section Found

variable {base e' : DockerEngine} {id : String} {c : WorkspaceContainer}

/-- A reference that found nothing finds the new container or nothing, and it is found by its
name. -/
theorem get_created_of_none (h : base.create id c = .ok e') {ref : String}
    (hnone : base.get ref = none) :
    e'.get ref = none ∨ e'.get ref = some (id, c) := by
  obtain ⟨-, -, -, hlook⟩ := create_ok h
  cases hget : e'.get ref with
  | none => exact .inl rfl
  | some x =>
      obtain ⟨j, d⟩ := x
      right
      obtain ⟨hd, hj⟩ := DockerEngine.get_eq_some_iff.mp hget
      have hd' := hd
      rw [hlook] at hd'
      split at hd'
      next hid => rw [hid, Option.some.inj hd']
      next =>
        -- one of the old ones would have been found before
        have hold : base.get ref = some (j, d) := by
          refine DockerEngine.get_eq_some_iff.mpr ⟨hd', hj.imp_right fun ⟨hl, hn⟩ => ⟨?_, hn⟩⟩
          rw [hlook] at hl
          split at hl
          · cases hl
          · exact hl
        rw [hnone] at hold
        cases hold

theorem get_created_name (h : base.create id c = .ok e') (hnone : base.get c.name = none) :
    e'.get c.name = some (id, c) := by
  obtain ⟨-, -, -, hlook⟩ := create_ok h
  refine (get_created_of_none h hnone).resolve_left fun hget => ?_
  have hc : e'.containers.lookup id = some c := (hlook id).trans (if_pos rfl)
  by_cases hl : e'.containers.lookup c.name = none
  · rw [DockerEngine.get_eq_some_iff.mpr ⟨hc, .inr ⟨hl, rfl⟩⟩] at hget
    cases hget
  · obtain ⟨d, hd⟩ := Option.ne_none_iff_exists'.mp hl
    rw [DockerEngine.get_of_lookup hd] at hget
    cases hget

/-- A reference that found a container still finds it, unless it is the new id. -/
theorem get_created_of_some (h : base.create id c = .ok e') {ref j : String}
    {d : WorkspaceContainer} (hsome : base.get ref = some (j, d)) (hne : ref ≠ id) :
    e'.get ref = some (j, d) ∧ j ≠ id := by
  obtain ⟨-, hfresh, -, hlook⟩ := create_ok h
  obtain ⟨hd, hj⟩ := DockerEngine.get_eq_some_iff.mp hsome
  have hji : j ≠ id := by
    rintro rfl
    rw [hfresh] at hd
    cases hd
  refine ⟨DockerEngine.get_eq_some_iff.mpr ⟨?_, hj.imp_right fun ⟨hl, hn⟩ => ⟨?_, hn⟩⟩, hji⟩
  · rw [hlook, if_neg hji]
    exact hd
  · rw [hlook, if_neg hne]
    exact hl

/-- **The second look**, where the references of the request found nothing before the creation:
it finds the new container. -/
theorem existing_created_of_none {req : ContainerRequest} (h : base.create id c = .ok e')
    (hname : c.name = req.name) (hnone : existingContainer base req = none) :
    existingContainer e' req = some (id, c) := by
  unfold existingContainer at hnone ⊢
  dsimp only at hnone ⊢
  obtain ⟨hrid, hbyname⟩ := Option.or_eq_none_iff.mp hnone
  have hfound : e'.get req.name = some (id, c) := by
    rw [← hname] at hbyname ⊢
    exact get_created_name h hbyname
  rw [hfound]
  by_cases hblank : stripOr req.existingContainerId ≠ ""
  · rw [if_pos hblank] at hrid ⊢
    rcases get_created_of_none h hrid with hget | hget
    · rw [hget]
      rfl
    · rw [hget]
      rfl
  · rw [if_neg hblank]
    rfl

/-- The new container has the id that the request names. -/
theorem existing_created_of_id {req : ContainerRequest} (h : base.create id c = .ok e')
    (hid : stripOr req.existingContainerId = id) : existingContainer e' req = some (id, c) := by
  obtain ⟨hne, -, -, hlook⟩ := create_ok h
  have hget : e'.get id = some (id, c) :=
    DockerEngine.get_of_lookup ((hlook id).trans (if_pos rfl))
  unfold existingContainer
  dsimp only
  rw [hid, if_pos hne, hget]
  rfl

/-- Where they found another container, the second look finds that one again. -/
theorem existing_created_of_some {req : ContainerRequest} (h : base.create id c = .ok e')
    (hname : c.name = req.name) {j : String} {d : WorkspaceContainer}
    (hsome : existingContainer base req = some (j, d))
    (hid : stripOr req.existingContainerId ≠ id) :
    existingContainer e' req = some (j, d) ∧ j ≠ id := by
  obtain ⟨-, hfresh, hnames, hlook⟩ := create_ok h
  unfold existingContainer at hsome ⊢
  dsimp only at hsome ⊢
  -- the name alone finds no old container by its name, so the reference is an id
  have hbyname : base.get req.name = some (j, d) → e'.get req.name = some (j, d) ∧ j ≠ id := by
    intro hget
    refine get_created_of_some h hget ?_
    obtain ⟨hd, rfl | ⟨-, hn⟩⟩ := DockerEngine.get_eq_some_iff.mp hget
    · intro heq
      rw [heq, hfresh] at hd
      cases hd
    · exact absurd (hn.trans hname.symm) (hnames j d hd)
  by_cases hblank : stripOr req.existingContainerId ≠ ""
  · rw [if_pos hblank] at hsome ⊢
    cases hrid : base.get (stripOr req.existingContainerId) with
    | some x =>
        rw [hrid, Option.some_or] at hsome
        rw [Option.some.inj hsome] at hrid
        obtain ⟨hget, hne⟩ := get_created_of_some h hrid hid
        rw [hget]
        exact ⟨rfl, hne⟩
    | none =>
        rw [hrid, Option.none_or] at hsome
        obtain ⟨hget, hne⟩ := hbyname hsome
        rcases get_created_of_none h hrid with hnew | hnew
        · rw [hnew, hget]
          exact ⟨rfl, hne⟩
        · -- the new container would be found by its name, which finds an old one
          obtain ⟨-, heq | ⟨-, hn⟩⟩ := DockerEngine.get_eq_some_iff.mp hnew
          · exact absurd heq.symm hid
          · rw [← hn, hname, hsome] at hrid
            cases hrid
  · rw [if_neg hblank] at hsome ⊢
    rw [Option.none_or] at hsome ⊢
    exact hbyname hsome

end Found

/-! ## The two calls -/

section Calls

variable {e e' : DockerEngine} {ans : EngineAnswers} {req : ContainerRequest}
  {r : RuntimeEnsureResult}

theorem createContainer_spec (h : createContainer e ans req = (e', .ok r)) :
    ∃ hostPath ro extra c, resolveProjectHostPathForCreate req.projectMount req.workspaceHostPath =
        .ok (hostPath, ro) ∧
      extraBinds [] req.extraBindMounts = .ok extra ∧
      c.binds = ⟨hostPath, workspaceProjectContainerPath, ro⟩ :: extra ∧ c.name = req.name ∧
      ans.createId = .ok r.containerId ∧ e.create r.containerId c = .ok e' ∧
      r.createdNew = true := by
  unfold createContainer at h
  split at h
  · cases h
  next hostPath ro hpath =>
    split at h
    · cases h
    · split at h
      · cases h
      · split at h
        · cases h
        · split at h
          · cases h
          · cases h
          · cases h
          next ports extra id hports hextra hid =>
            split at h
            · cases h
            next hcreate =>
              obtain ⟨rfl, hr⟩ := Prod.mk.inj h
              obtain rfl := Except.ok.inj hr
              exact ⟨hostPath, ro, extra, _, hpath, hextra, rfl, rfl, hid, hcreate, rfl⟩

variable (ans) in
/-- A call that finds a container: with fitting mounts it returns it, else it does not leave the
engine with a container that was there. -/
theorem ensureContainer_found (hname : strip req.name ≠ "") {i : String} {c : WorkspaceContainer}
    (hfound : existingContainer e req = some (i, c)) :
    if mountsFit req.workspaceHostPath req.extraBindMounts c = true then
      ∃ r, ensureContainer e ans req = (e, .ok r) ∧ r.containerId = i ∧ r.createdNew = false
    else ∀ e' r, ensureContainer e ans req = (e', .ok r) →
      createContainer (e.remove i) ans req = (e', .ok r) := by
  unfold ensureContainer
  rw [if_neg hname, hfound]
  unfold mountsFit
  dsimp only
  cases hreq : requestedBindSignatures req.workspaceHostPath req.extraBindMounts with
  | error m =>
      rw [if_neg (by simp)]
      intro e' r h
      cases h
  | ok requested =>
      dsimp only
      by_cases hdiff : bindsDiffer requested c = true
      · rw [if_neg (by simp [hdiff])]
        intro e' r h
        rw [if_pos hdiff] at h
        split at h
        · cases h
        · exact h
      · rw [if_pos (by simp [hdiff])]
        exact ⟨_, if_neg hdiff, rfl, rfl⟩

theorem satisfiedWith_iff (hname : strip req.name ≠ "") {i : String} {c : WorkspaceContainer}
    (hfound : existingContainer e req = some (i, c)) (id : String) :
    SatisfiedWith e req id ↔
      i = id ∧ mountsFit req.workspaceHostPath req.extraBindMounts c = true := by
  constructor
  · intro h
    obtain ⟨r, hr, hid, hold⟩ := h { createId := .error "no further container" }
    have hcall := ensureContainer_found { createId := .error "no further container" } hname hfound
    split at hcall
    next hfit =>
      obtain ⟨r', hr', hid', -⟩ := hcall
      rw [hr] at hr'
      obtain rfl := Except.ok.inj (Prod.mk.inj hr').2
      exact ⟨hid'.symm.trans hid, hfit⟩
    next =>
      obtain ⟨_, _, _, _, -, -, -, -, -, -, hnew⟩ := createContainer_spec (hcall e r hr)
      rw [hold] at hnew
      cases hnew
  · rintro ⟨rfl, hfit⟩ ans
    have hcall := ensureContainer_found ans hname hfound
    rw [if_pos hfit] at hcall
    exact hcall

end Calls

/-- **When ensuring twice is ensuring once**: after a call that returned a container, every further
call with the same arguments returns that container and leaves the engine alone, exactly if the
first call reused it, or made it with mounts that the request asks for and the request finds no
other container in its place. -/
theorem ensure_twice_iff (e e' : DockerEngine) (ans : EngineAnswers) (req : ContainerRequest)
    (r : RuntimeEnsureResult) (h : ensureContainer e ans req = (e', .ok r)) :
    SatisfiedWith e' req r.containerId ↔
      Reuses e req ∨ NewFits req ∧ ¬ FindsOther e ans req := by
  have hname : strip req.name ≠ "" := by
    intro hblank
    unfold ensureContainer at h
    rw [if_pos hblank] at h
    cases h
  have hcreated : ∀ base, createContainer base ans req = (e', .ok r) → ∃ c, c.name = req.name ∧
      base.create r.containerId c = .ok e' ∧ ans.createId = .ok r.containerId ∧
      (mountsFit req.workspaceHostPath req.extraBindMounts c = true ↔ NewFits req) := by
    intro base hcreate
    obtain ⟨hostPath, ro, extra, c, hpath, hextra, hbinds, hcname, hid, hmade, -⟩ :=
      createContainer_spec hcreate
    exact ⟨c, hcname, hmade, hid, mountsFit_created hpath hextra hbinds⟩
  cases hfound : existingContainer e req with
  | none =>
      have hcreate : createContainer e ans req = (e', .ok r) := by
        unfold ensureContainer at h
        rw [if_neg hname, hfound] at h
        exact h
      obtain ⟨c, hcname, hmade, -, hfit⟩ := hcreated e hcreate
      rw [satisfiedWith_iff hname (existing_created_of_none hmade hcname hfound), hfit]
      have hno : ¬ Reuses e req := by
        rintro ⟨i, c', hsome, -⟩
        rw [hfound] at hsome
        cases hsome
      have hnot : ¬ FindsOther e ans req := by
        rintro ⟨i, c', hsome, -⟩
        rw [hfound] at hsome
        cases hsome
      simp [hno, hnot]
  | some x =>
      obtain ⟨i, c₀⟩ := x
      have hcall := ensureContainer_found ans hname hfound
      have hreuse : Reuses e req ↔
          mountsFit req.workspaceHostPath req.extraBindMounts c₀ = true := by
        constructor
        · rintro ⟨i', c', hsome, hfit⟩
          rw [hfound] at hsome
          rw [(Prod.mk.inj (Option.some.inj hsome)).2]
          exact hfit
        · exact fun hfit => ⟨i, c₀, hfound, hfit⟩
      by_cases hfit₀ : mountsFit req.workspaceHostPath req.extraBindMounts c₀ = true
      · rw [if_pos hfit₀] at hcall
        obtain ⟨r', hr', hid, -⟩ := hcall
        rw [h] at hr'
        obtain ⟨rfl, hsame⟩ := Prod.mk.inj hr'
        obtain rfl := Except.ok.inj hsame
        exact iff_of_true ((satisfiedWith_iff hname hfound _).mpr ⟨hid.symm, hfit₀⟩)
          (.inl (hreuse.mpr hfit₀))
      · rw [if_neg hfit₀] at hcall
        obtain ⟨c, hcname, hmade, hid, hfit⟩ := hcreated _ (hcall e' r h)
        have hother : FindsOther e ans req ↔ existingContainer (e.remove i) req ≠ none ∧
            stripOr req.existingContainerId ≠ r.containerId := by
          constructor
          · rintro ⟨i', c', hsome, hne, hnew⟩
            rw [hfound] at hsome
            obtain ⟨rfl, -⟩ := Prod.mk.inj (Option.some.inj hsome)
            exact ⟨hne, fun heq => hnew (by rw [hid, heq])⟩
          · rintro ⟨hne, hnew⟩
            refine ⟨i, c₀, hfound, hne, fun heq => hnew ?_⟩
            rw [hid] at heq
            exact (Except.ok.inj heq).symm
        rw [hreuse, or_iff_right hfit₀, hother]
        by_cases hsame : stripOr req.existingContainerId = r.containerId
        · rw [satisfiedWith_iff hname (existing_created_of_id hmade hsame), hfit]
          simp [hsame]
        · cases hsecond : existingContainer (e.remove i) req with
          | none =>
              rw [satisfiedWith_iff hname (existing_created_of_none hmade hcname hsecond), hfit]
              simp
          | some y =>
              obtain ⟨j, d⟩ := y
              obtain ⟨hsome, hne⟩ := existing_created_of_some hmade hcname hsecond hsame
              rw [satisfiedWith_iff hname hsome]
              simp [hne, hsame]

/-! ## Two requests -/

def answersWith (id : String) : EngineAnswers := { createId := .ok id }

/-- The project directory by the workspace path, and a cache. -/
def pathRequest : ContainerRequest where
  name := "devnest-ws-7"
  workspaceHostPath := some "/srv/projects/7"
  extraBindMounts := [⟨"/srv/cache", "/cache", true⟩]

/-- The same by the project mount. -/
def mountRequest : ContainerRequest :=
  { pathRequest with
    projectMount := some ⟨"/srv/projects/7", false⟩
    workspaceHostPath := none }

theorem ensured_of_isOk {e : DockerEngine} {ans : EngineAnswers} {req : ContainerRequest}
    (h : (ensureContainer e ans req).2.isOk = true) :
    ∃ r, ensureContainer e ans req = ((ensureContainer e ans req).1, .ok r) := by
  cases hcall : ensureContainer e ans req with
  | mk e' res =>
      cases res with
      | ok r => exact ⟨r, rfl⟩
      | error f =>
          rw [hcall] at h
          cases h

theorem path_request_is_reused :
    ∃ r, ensureContainer .empty (answersWith "c0ffee") pathRequest =
        ((ensureContainer .empty (answersWith "c0ffee") pathRequest).1, .ok r) ∧
      SatisfiedWith (ensureContainer .empty (answersWith "c0ffee") pathRequest).1 pathRequest
        r.containerId := by
  obtain ⟨r, hr⟩ := @ensured_of_isOk .empty (answersWith "c0ffee")
    pathRequest (by decide +kernel)
  have hempty : (existingContainer .empty pathRequest).isNone = true := by decide +kernel
  refine ⟨r, hr, (ensure_twice_iff .empty _ (answersWith "c0ffee") pathRequest r hr).mpr
    (.inr ⟨?_, ?_⟩)⟩
  · show if stripOr pathRequest.workspaceHostPath = "" then _ else _
    rw [if_neg (by decide)]
    rfl
  · rintro ⟨i, c, hsome, -⟩
    rw [hsome] at hempty
    cases hempty

/-- With a project mount and an extra mount every call makes the container anew. -/
theorem mount_request_is_made_anew :
    ¬ ∀ (e e' : DockerEngine) (ans : EngineAnswers) (req : ContainerRequest)
        (r : RuntimeEnsureResult), ensureContainer e ans req = (e', .ok r) →
      SatisfiedWith e' req r.containerId := by
  intro h
  obtain ⟨r, hr⟩ := @ensured_of_isOk .empty (answersWith "c0ffee")
    mountRequest (by decide +kernel)
  obtain ⟨r', hr', -, hold⟩ := h .empty _ _ mountRequest r hr (answersWith "decaf")
  have hnew : (ensureContainer (ensureContainer .empty (answersWith "c0ffee") mountRequest).1
      (answersWith "decaf") mountRequest).2.toOption.map (·.createdNew) = some true := by
    decide +kernel
  rw [hr'] at hnew
  have hmade : r'.createdNew = true := Option.some.inj hnew
  rw [hold] at hmade
  cases hmade

end Devnest
