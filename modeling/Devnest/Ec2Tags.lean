import Devnest.FailureHandling

/-!
# Tags of EC2 resources

`ec2_cleanup.py` writes four tags on everything an autoscaled node owns and
deletes only what carries all four. Tags are written as a list and read back
as a dictionary, in which the last of several equal keys wins, with the blanks
around keys and values gone.

`complete_tags_eligible` is the round trip: what a node is tagged with makes
it eligible under its own key, whatever extra tags the operator adds. A key is
cut to 127 characters when it is written, after the test that protects the
four keys; a longer one could become one of them by its trailing blanks, so
the round trip asks for keys that are not cut.
-/

namespace Devnest

open PyText

/-! ## Dictionaries -/

/-- A dictionary of texts, in insertion order. -/
abbrev PyDict := List (String × String)

/-- `d[k] = v`: a key that is there keeps its place. -/
def dictSet (k v : String) : PyDict → PyDict
  | [] => [(k, v)]
  | (k', v') :: d => if k' = k then (k', v) :: d else (k', v') :: dictSet k v d

/-- `d.get(k)`. -/
def dictGet (k : String) : PyDict → Option String
  | [] => none
  | (k', v') :: d => if k' = k then some v' else dictGet k d

@[simp] theorem dictGet_dictSet (k k' v : String) (d : PyDict) :
    dictGet k' (dictSet k v d) = if k' = k then some v else dictGet k' d := by
  induction d with
  | nil =>
      by_cases h : k = k'
      · simp [dictSet, dictGet, h]
      · simp [dictSet, dictGet, h, Ne.symm h]
  | cons e d ih =>
      obtain ⟨k₀, v₀⟩ := e
      by_cases h₀ : k₀ = k
      · subst h₀
        by_cases h : k₀ = k'
        · simp [dictSet, dictGet, h]
        · simp [dictSet, dictGet, h, Ne.symm h]
      · rw [dictSet, if_neg h₀, dictGet, dictGet, ih]
        by_cases h : k₀ = k'
        · subst h
          simp [h₀]
        · simp [h]

/-! ## Reading -/

structure Ec2Tag where
  key : String
  value : String
  deriving DecidableEq, Repr

/-- `_tags_list_to_map`. -/
def tagsListToMap (tags : List Ec2Tag) : PyDict :=
  tags.foldl (fun out t =>
    if strip t.key = "" then out else dictSet (strip t.key) (strip t.value) out) []

/-- `_normalized_tag_map`. -/
def normalizedTagMap (tags : List Ec2Tag) : PyDict :=
  (tagsListToMap tags).foldl (fun out e => dictSet (lower e.1) e.2 out) []

/-- `devnest_autocleanup_eligible` on a list of tags. -/
def devnestAutocleanupEligible (tags : List Ec2Tag) : Bool :=
  let raw := tagsListToMap tags
  dictGet "ManagedBy" raw = some "DevNest" && dictGet "Project" raw = some "DevNest" &&
    lower (stripOr (dictGet "AutoCleanup" raw)) = "true" &&
    stripOr (dictGet "ExecutionNode" raw) ≠ ""

/-- The node key as the sweeps read it. -/
def executionNodeTag (tags : List Ec2Tag) : String :=
  stripOr (dictGet "executionnode" (normalizedTagMap tags))

/-! ## Writing -/

def protectedExtraTagKeys : List String := ["managedby", "project", "autocleanup", "executionnode"]

/-- `_tag_prefix` of the setting. -/
def tagPrefix (setting : Option String) : String :=
  orText (strip (orText (setting.getD "") "devnest")) "devnest"

/-- `_merge_extra_tags`. -/
def mergeExtraTags (tags : List Ec2Tag) (extra : List (String × String)) : List Ec2Tag :=
  extra.foldl (fun tags e =>
    if strip e.1 = "" || strip e.2 = "" then tags
    else if lower (strip e.1) ∈ protectedExtraTagKeys then tags
    else tags ++ [⟨take 127 (strip e.1), take 256 (strip e.2)⟩]) tags

/-- `build_launch_tags_for_run_instances`. -/
def buildLaunchTagsForRunInstances (setting nodeKey : Option String) (displayName : String)
    (extra : List (String × String)) : List Ec2Tag :=
  let base : List Ec2Tag := [⟨"ManagedBy", "DevNest"⟩, ⟨"Project", "DevNest"⟩,
    ⟨"AutoCleanup", "true"⟩, ⟨"Name", take 256 (orText (strip displayName) "devnest-node")⟩,
    ⟨take 127 (tagPrefix setting ++ ":managed"), "true"⟩]
  let nk := stripOr nodeKey
  let node : List Ec2Tag := if nk = "" then [] else
    [⟨"ExecutionNode", take 256 nk⟩, ⟨take 127 (tagPrefix setting ++ ":node_key"), take 256 nk⟩]
  mergeExtraTags (base ++ node) extra

/-- `build_complete_devnest_autoscale_tags`; `none` is its `ValueError`. -/
def buildCompleteDevnestAutoscaleTags (setting : Option String) (nodeKey displayName : String)
    (extra : List (String × String)) : Option (List Ec2Tag) :=
  let nk := strip nodeKey
  if nk = "" then none
  else some (mergeExtraTags [⟨"ManagedBy", "DevNest"⟩, ⟨"Project", "DevNest"⟩,
    ⟨"AutoCleanup", "true"⟩, ⟨"ExecutionNode", take 256 nk⟩,
    ⟨"Name", take 256 (orText (strip displayName) nk)⟩,
    ⟨take 127 (tagPrefix setting ++ ":managed"), "true"⟩,
    ⟨take 127 (tagPrefix setting ++ ":node_key"), take 256 nk⟩] extra)

/-! ## The dictionary of a list of tags -/

theorem tagsListToMap_snoc (tags : List Ec2Tag) (t : Ec2Tag) :
    tagsListToMap (tags ++ [t]) =
      if strip t.key = "" then tagsListToMap tags
      else dictSet (strip t.key) (strip t.value) (tagsListToMap tags) := by
  rw [tagsListToMap, List.foldl_append]
  rfl

/-- Reading one key. -/
theorem dictGet_tagsListToMap_snoc {k : String} (hk : k ≠ "") (tags : List Ec2Tag) (t : Ec2Tag) :
    dictGet k (tagsListToMap (tags ++ [t])) =
      if strip t.key = k then some (strip t.value) else dictGet k (tagsListToMap tags) := by
  rw [tagsListToMap_snoc]
  by_cases hempty : strip t.key = ""
  · rw [if_pos hempty, if_neg fun h => hk (h.symm.trans hempty)]
  · rw [if_neg hempty, dictGet_dictSet]
    by_cases h : k = strip t.key
    · rw [if_pos h, if_pos h.symm]
    · rw [if_neg h, if_neg (Ne.symm h)]

theorem dictGet_tagsListToMap_none {k : String} (hk : k ≠ "") {tags : List Ec2Tag}
    (h : ∀ t ∈ tags, strip t.key ≠ k) : dictGet k (tagsListToMap tags) = none := by
  induction tags using List.reverseRecOn with
  | nil => rfl
  | append_singleton tags t ih =>
      rw [dictGet_tagsListToMap_snoc hk, if_neg (h t (by simp))]
      exact ih fun t' ht' => h t' (List.mem_append_left _ ht')

/-- Where all tags of a key have one value, it is read. -/
theorem dictGet_tagsListToMap_some {k v : String} (hk : k ≠ "") {tags : List Ec2Tag}
    (hex : ∃ t ∈ tags, strip t.key = k) (hall : ∀ t ∈ tags, strip t.key = k → strip t.value = v) :
    dictGet k (tagsListToMap tags) = some v := by
  induction tags using List.reverseRecOn with
  | nil =>
      obtain ⟨t, ht, -⟩ := hex
      cases ht
  | append_singleton tags t ih =>
      rw [dictGet_tagsListToMap_snoc hk]
      split
      · rename_i hkey
        rw [hall t (by simp) hkey]
      · rename_i hkey
        refine ih ?_ fun t' ht' => hall t' (List.mem_append_left _ ht')
        obtain ⟨t', ht', hkey'⟩ := hex
        rcases List.mem_append.mp ht' with ht' | ht'
        · exact ⟨t', ht', hkey'⟩
        · exact absurd (List.mem_singleton.mp ht' ▸ hkey') hkey

def dictKeys (d : PyDict) : List String := d.map Prod.fst

theorem mem_dictKeys_dictSet {k k' v : String} {d : PyDict} :
    k' ∈ dictKeys (dictSet k v d) ↔ k' = k ∨ k' ∈ dictKeys d := by
  induction d with
  | nil => simp [dictSet, dictKeys]
  | cons e d ih =>
      obtain ⟨k₀, v₀⟩ := e
      by_cases h : k₀ = k
      · subst h
        simp [dictSet, dictKeys]
      · simp only [dictSet, if_neg h, dictKeys, List.map_cons, List.mem_cons] at ih ⊢
        rw [ih]
        exact or_left_comm

theorem nodup_dictKeys_dictSet {k v : String} {d : PyDict} (h : (dictKeys d).Nodup) :
    (dictKeys (dictSet k v d)).Nodup := by
  induction d with
  | nil => exact List.nodup_singleton k
  | cons e d ih =>
      obtain ⟨k₀, v₀⟩ := e
      obtain ⟨hnot, hnodup⟩ := List.nodup_cons.mp h
      by_cases hk : k₀ = k
      · rw [dictSet, if_pos hk]
        exact h
      · rw [dictSet, if_neg hk]
        refine List.nodup_cons.mpr ⟨fun hmem => ?_, ih hnodup⟩
        rcases mem_dictKeys_dictSet.mp hmem with heq | hmem
        · exact hk heq
        · exact hnot hmem

/-- What holds of the stripped keys of the tags holds of the keys of the dictionary, which are
distinct. -/
theorem dictKeys_tagsListToMap {P : String → Prop} {tags : List Ec2Tag}
    (h : ∀ t ∈ tags, P (strip t.key)) :
    (dictKeys (tagsListToMap tags)).Nodup ∧ ∀ k ∈ dictKeys (tagsListToMap tags), P k := by
  induction tags using List.reverseRecOn with
  | nil => exact ⟨List.nodup_nil, fun k hk => by cases hk⟩
  | append_singleton tags t ih =>
      obtain ⟨hnodup, hall⟩ := ih fun t' ht' => h t' (List.mem_append_left _ ht')
      rw [tagsListToMap_snoc]
      split
      · exact ⟨hnodup, hall⟩
      · refine ⟨nodup_dictKeys_dictSet hnodup, fun k hk => ?_⟩
        rcases mem_dictKeys_dictSet.mp hk with rfl | hk
        · exact h t (by simp)
        · exact hall k hk

theorem dictGet_none_of_notMem {k : String} {d : PyDict} (h : k ∉ dictKeys d) :
    dictGet k d = none := by
  induction d with
  | nil => rfl
  | cons e d ih =>
      obtain ⟨hne, hnot⟩ := not_or.mp (List.mem_cons.not.mp h)
      rw [dictGet, if_neg (Ne.symm hne)]
      exact ih hnot

/-- In lower case a key keeps its value when no other key is spelt alike. -/
theorem dictGet_normalized {K k : String} {d acc : PyDict} (hnodup : (dictKeys d).Nodup)
    (hspelt : ∀ k' ∈ dictKeys d, lower k' = k ↔ k' = K) :
    dictGet k (d.foldl (fun out e => dictSet (lower e.1) e.2 out) acc) =
      (dictGet K d).or (dictGet k acc) := by
  induction d generalizing acc with
  | nil => rfl
  | cons e d ih =>
      obtain ⟨k₀, v₀⟩ := e
      obtain ⟨hnot, hnodup⟩ := List.nodup_cons.mp hnodup
      have hhead := hspelt k₀ List.mem_cons_self
      rw [List.foldl_cons, ih hnodup fun k' hk' => hspelt k' (List.mem_cons_of_mem _ hk'),
        dictGet_dictSet]
      by_cases hK : k₀ = K
      · subst hK
        rw [dictGet_none_of_notMem hnot, Option.none_or, if_pos (hhead.mpr rfl).symm, dictGet,
          if_pos rfl, Option.some_or]
      · rw [if_neg fun h => hK (hhead.mp h.symm), dictGet, if_neg hK]

/-! ## A node's tags -/

/-- The four keys as they are written. -/
def requiredTagKeys : List String := ["ManagedBy", "Project", "AutoCleanup", "ExecutionNode"]

/-- A key that reads as a protected one is one of the four. -/
def SpeltPlainly (tags : List Ec2Tag) : Prop :=
  ∀ t ∈ tags, lower (strip t.key) ∈ protectedExtraTagKeys → t.key ∈ requiredTagKeys

/-- The tags of the node `nk`: the four, once each. -/
structure NodeTags (nk : String) (tags : List Ec2Tag) : Prop where
  plain : SpeltPlainly tags
  managedBy : ⟨"ManagedBy", "DevNest"⟩ ∈ tags
  project : ⟨"Project", "DevNest"⟩ ∈ tags
  autoCleanup : ⟨"AutoCleanup", "true"⟩ ∈ tags
  executionNode : ⟨"ExecutionNode", nk⟩ ∈ tags
  once : ∀ t ∈ tags, ∀ t' ∈ tags, t.key ∈ requiredTagKeys → t'.key = t.key → t' = t

theorem strip_required {k : String} (h : k ∈ requiredTagKeys) :
    strip k = k ∧ k ≠ "" ∧ lower k ∈ protectedExtraTagKeys := by
  revert k
  decide

theorem NodeTags.read {nk : String} {tags : List Ec2Tag} (h : NodeTags nk tags) {t : Ec2Tag}
    (ht : t ∈ tags) (hkey : t.key ∈ requiredTagKeys) :
    dictGet t.key (tagsListToMap tags) = some (strip t.value) := by
  obtain ⟨hstrip, hne, hprotected⟩ := strip_required hkey
  refine dictGet_tagsListToMap_some hne ⟨t, ht, hstrip⟩ fun t' ht' heq => ?_
  have hkey' := h.plain t' ht' (by rw [heq]; exact hprotected)
  rw [(strip_required hkey').1] at heq
  rw [h.once t ht t' ht' hkey heq]

/-- What a node is tagged with makes it eligible, under its own key. -/
theorem NodeTags.eligible {nk : String} {tags : List Ec2Tag} (h : NodeTags nk tags)
    (hnk : strip nk ≠ "") :
    devnestAutocleanupEligible tags = true ∧ executionNodeTag tags = strip nk := by
  have hread := h.read h.executionNode (by simp [requiredTagKeys])
  refine ⟨?_, ?_⟩
  · unfold devnestAutocleanupEligible
    dsimp only
    rw [h.read h.managedBy (by decide), h.read h.project (by decide),
      h.read h.autoCleanup (by decide), hread]
    simp only [stripOr, Option.getD_some, strip_strip, Bool.and_eq_true, decide_eq_true_eq]
    exact ⟨⟨⟨by decide, by decide⟩, by decide⟩, hnk⟩
  · obtain ⟨hnodup, hkeys⟩ := @dictKeys_tagsListToMap
      (fun k => lower k = "executionnode" ↔ k = "ExecutionNode") tags fun t ht => by
        refine ⟨fun hlower => ?_, fun heq => by rw [heq]; decide⟩
        have hkey := h.plain t ht (by rw [hlower]; decide)
        rw [(strip_required hkey).1] at hlower ⊢
        have hall : ∀ k ∈ requiredTagKeys, lower k = "executionnode" → k = "ExecutionNode" := by
          decide
        exact hall t.key hkey hlower
    rw [executionNodeTag, normalizedTagMap, dictGet_normalized hnodup hkeys, hread]
    simp only [Option.some_or, stripOr, Option.getD_some, strip_strip]

/-! ## Extra tags -/

/-- The keys that are not cut when they are written. -/
structure KeysUncut (setting : Option String) (extra : List (String × String)) : Prop where
  tagPrefix : (tagPrefix setting).length ≤ 118
  extra : ∀ e ∈ extra, (strip e.1).length ≤ 127

theorem take_of_length_le {n : Nat} {s : String} (h : s.length ≤ n) : take n s = s := by
  rw [take, List.take_of_length_le (by rwa [String.length_toList]), String.ofList_toList]

/-- The extra tags come last, and none of them reads as a protected one. -/
theorem mergeExtraTags_eq {extra : List (String × String)}
    (huncut : ∀ e ∈ extra, (strip e.1).length ≤ 127) (tags : List Ec2Tag) :
    ∃ more, mergeExtraTags tags extra = tags ++ more ∧
      ∀ t ∈ more, lower (strip t.key) ∉ protectedExtraTagKeys := by
  unfold mergeExtraTags
  induction extra generalizing tags with
  | nil => exact ⟨[], (List.append_nil tags).symm, fun t ht => by cases ht⟩
  | cons e extra ih =>
      have hrest := ih fun e' he' => huncut e' (List.mem_cons_of_mem e he')
      rw [List.foldl_cons]
      split
      · exact hrest tags
      split
      · exact hrest tags
      · rename_i hprotected
        obtain ⟨more, heq, hmore⟩ :=
          hrest (tags ++ [⟨take 127 (strip e.1), take 256 (strip e.2)⟩])
        refine ⟨_ :: more, by rw [heq, List.append_assoc]; rfl, fun t ht => ?_⟩
        rcases List.mem_cons.mp ht with rfl | ht
        · dsimp only
          rw [take_of_length_le (huncut e List.mem_cons_self), strip_strip]
          exact hprotected
        · exact hmore t ht

/-- The keys of the operator's prefix have a colon in them. -/
theorem prefix_key_plain {p suffix : String} (hp : p.length ≤ 118) (hs : suffix.length ≤ 9)
    (hcolon : ':' ∈ suffix.toList) :
    lower (strip (take 127 (p ++ suffix))) ∉ protectedExtraTagKeys := by
  have hlen : (p ++ suffix).length ≤ 127 := by
    rw [String.length_append]
    omega
  have hmem : ':' ∈ (lower (strip (take 127 (p ++ suffix)))).toList := by
    rw [take_of_length_le hlen, lower, strip, String.toList_ofList, String.toList_ofList,
      lowerChars, List.mem_flatMap]
    refine ⟨':', mem_stripChars ?_ (by decide), by decide⟩
    rw [String.toList_append]
    exact List.mem_append_right _ hcolon
  have hnone : ∀ k ∈ protectedExtraTagKeys, ':' ∉ k.toList := by decide
  exact fun h => hnone _ h hmem

/-- Tags of a node followed by tags that read as nothing protected. -/
theorem nodeTags_append {nk : String} {tags more : List Ec2Tag} (h : NodeTags nk tags)
    (hmore : ∀ t ∈ more, lower (strip t.key) ∉ protectedExtraTagKeys) :
    NodeTags nk (tags ++ more) := by
  have hold : ∀ t ∈ tags ++ more, t.key ∈ requiredTagKeys → t ∈ tags := by
    intro t ht hkey
    rcases List.mem_append.mp ht with ht | ht
    · exact ht
    · obtain ⟨hstrip, -, hprotected⟩ := strip_required hkey
      exact absurd (hstrip.symm ▸ hprotected) (hmore t ht)
  refine ⟨fun t ht hprotected => ?_, List.mem_append_left _ h.managedBy,
    List.mem_append_left _ h.project, List.mem_append_left _ h.autoCleanup,
    List.mem_append_left _ h.executionNode, fun t ht t' ht' hkey heq => ?_⟩
  · rcases List.mem_append.mp ht with ht | ht
    · exact h.plain t ht hprotected
    · exact absurd hprotected (hmore t ht)
  · exact h.once t (hold t ht hkey) t' (hold t' ht' (heq ▸ hkey)) hkey heq

theorem strip_take_ne_empty {n : Nat} (hn : 0 < n) {s : String} (h : strip s ≠ "") :
    strip (take n (strip s)) ≠ "" := by
  obtain ⟨m, rfl⟩ := Nat.exists_eq_succ_of_ne_zero hn.ne'
  intro hempty
  have hnil : stripChars ((stripChars s.toList).take (m + 1)) = [] := by
    have hlist := congrArg String.toList hempty
    rwa [strip, take, strip, String.toList_ofList, String.toList_ofList,
      String.toList_ofList] at hlist
  cases hs : stripChars s.toList with
  | nil => exact h (by rw [strip, hs])
  | cons c l =>
      rw [hs, List.take_succ_cons] at hnil
      exact stripChars_ne_nil List.mem_cons_self (isSpace_head_stripChars hs) hnil

/-- The tags of both builders, without the extra ones. -/
theorem nodeTags_base {setting : Option String} (hlen : (tagPrefix setting).length ≤ 118)
    (nk name : String) {tags : List Ec2Tag}
    (hperm : tags.Perm [⟨"ManagedBy", "DevNest"⟩, ⟨"Project", "DevNest"⟩, ⟨"AutoCleanup", "true"⟩,
      ⟨"ExecutionNode", nk⟩, ⟨"Name", name⟩, ⟨take 127 (tagPrefix setting ++ ":managed"), "true"⟩,
      ⟨take 127 (tagPrefix setting ++ ":node_key"), nk⟩]) : NodeTags nk tags := by
  have hmanaged : lower (strip (take 127 (tagPrefix setting ++ ":managed"))) ∉
      protectedExtraTagKeys := prefix_key_plain hlen (by decide) (by decide)
  have hnode : lower (strip (take 127 (tagPrefix setting ++ ":node_key"))) ∉
      protectedExtraTagKeys := prefix_key_plain hlen (by decide) (by decide)
  have hname : lower (strip "Name") ∉ protectedExtraTagKeys := by decide
  have hcases : ∀ t ∈ tags, lower (strip t.key) ∉ protectedExtraTagKeys ∨
      t ∈ [(⟨"ManagedBy", "DevNest"⟩ : Ec2Tag), ⟨"Project", "DevNest"⟩, ⟨"AutoCleanup", "true"⟩,
        ⟨"ExecutionNode", nk⟩] := by
    intro t ht
    have ht' := hperm.mem_iff.mp ht
    simp only [List.mem_cons, List.not_mem_nil, or_false] at ht' ⊢
    rcases ht' with h | h | h | h | rfl | rfl | rfl
    · exact .inr (.inl h)
    · exact .inr (.inr (.inl h))
    · exact .inr (.inr (.inr (.inl h)))
    · exact .inr (.inr (.inr (.inr h)))
    · exact .inl hname
    · exact .inl hmanaged
    · exact .inl hnode
  have hfour : ∀ t ∈ tags, t.key ∈ requiredTagKeys →
      t ∈ [(⟨"ManagedBy", "DevNest"⟩ : Ec2Tag), ⟨"Project", "DevNest"⟩, ⟨"AutoCleanup", "true"⟩,
        ⟨"ExecutionNode", nk⟩] := by
    intro t ht hkey
    obtain ⟨hstrip, -, hprotected⟩ := strip_required hkey
    exact (hcases t ht).resolve_left fun hno => hno (hstrip.symm ▸ hprotected)
  refine ⟨fun t ht hprotected => ?_, hperm.mem_iff.mpr (by simp), hperm.mem_iff.mpr (by simp),
    hperm.mem_iff.mpr (by simp), hperm.mem_iff.mpr (by simp), fun t ht t' ht' hkey heq => ?_⟩
  · have hmem := (hcases t ht).resolve_left fun hno => hno hprotected
    simp only [List.mem_cons, List.not_mem_nil, or_false] at hmem
    rcases hmem with rfl | rfl | rfl | rfl <;> simp [requiredTagKeys]
  · have hmem := hfour t ht hkey
    have hmem' := hfour t' ht' (heq ▸ hkey)
    simp only [List.mem_cons, List.not_mem_nil, or_false] at hmem hmem'
    rcases hmem with rfl | rfl | rfl | rfl <;> rcases hmem' with rfl | rfl | rfl | rfl <;>
      simp at heq ⊢

/-- **The tags of a node come back.** Whatever the display name and the extra tags, what a node
is tagged with is eligible for the cleanup, and read back under the node's own key. -/
theorem complete_tags_eligible {setting : Option String} {extra : List (String × String)}
    (huncut : KeysUncut setting extra) {nodeKey : String} (hnk : strip nodeKey ≠ "")
    (displayName : String) :
    ∃ tags, buildCompleteDevnestAutoscaleTags setting nodeKey displayName extra = some tags ∧
      devnestAutocleanupEligible tags = true ∧
      executionNodeTag tags = strip (take 256 (strip nodeKey)) := by
  unfold buildCompleteDevnestAutoscaleTags
  dsimp only
  rw [if_neg hnk]
  obtain ⟨more, heq, hmore⟩ := mergeExtraTags_eq huncut.extra
    [⟨"ManagedBy", "DevNest"⟩, ⟨"Project", "DevNest"⟩, ⟨"AutoCleanup", "true"⟩,
      ⟨"ExecutionNode", take 256 (strip nodeKey)⟩,
      ⟨"Name", take 256 (orText (strip displayName) (strip nodeKey))⟩,
      ⟨take 127 (tagPrefix setting ++ ":managed"), "true"⟩,
      ⟨take 127 (tagPrefix setting ++ ":node_key"), take 256 (strip nodeKey)⟩]
  refine ⟨_, rfl, ?_⟩
  rw [heq]
  exact (nodeTags_append (nodeTags_base huncut.tagPrefix _ _ (.refl _)) hmore).eligible
    (strip_take_ne_empty (by decide) hnk)

theorem node_one_eligible :
    ∃ tags, buildCompleteDevnestAutoscaleTags none "node-1" "" [("Team", "core")] = some tags ∧
      devnestAutocleanupEligible tags = true ∧
      executionNodeTag tags = strip (take 256 (strip "node-1")) :=
  complete_tags_eligible ⟨by decide, by decide⟩ (by decide) ""

/-- **An instance is eligible from its launch on exactly when its node is known.** The operator's
extra tags cannot change that, unless one has a key that only the cut makes a reserved one. -/
theorem launch_tags_eligible_iff {setting : Option String} {extra : List (String × String)}
    (huncut : KeysUncut setting extra) (nodeKey : Option String) (displayName : String) :
    devnestAutocleanupEligible (buildLaunchTagsForRunInstances setting nodeKey displayName extra) =
      true ↔ stripOr nodeKey ≠ "" := by
  unfold buildLaunchTagsForRunInstances
  dsimp only
  obtain ⟨more, heq, hmore⟩ := mergeExtraTags_eq huncut.extra
    ([⟨"ManagedBy", "DevNest"⟩, ⟨"Project", "DevNest"⟩, ⟨"AutoCleanup", "true"⟩,
      ⟨"Name", take 256 (orText (strip displayName) "devnest-node")⟩,
      ⟨take 127 (tagPrefix setting ++ ":managed"), "true"⟩] ++
      if stripOr nodeKey = "" then [] else
        [⟨"ExecutionNode", take 256 (stripOr nodeKey)⟩,
          ⟨take 127 (tagPrefix setting ++ ":node_key"), take 256 (stripOr nodeKey)⟩])
  rw [heq]
  by_cases hnk : stripOr nodeKey = ""
  · rw [if_pos hnk, List.append_nil]
    refine ⟨fun helig => ?_, fun hno => absurd hnk hno⟩
    have hnone : dictGet "ExecutionNode" (tagsListToMap ([⟨"ManagedBy", "DevNest"⟩,
        ⟨"Project", "DevNest"⟩, ⟨"AutoCleanup", "true"⟩,
        ⟨"Name", take 256 (orText (strip displayName) "devnest-node")⟩,
        ⟨take 127 (tagPrefix setting ++ ":managed"), "true"⟩] ++ more)) = none := by
      refine dictGet_tagsListToMap_none (by decide) fun t ht hkey => ?_
      have hprotected : lower (strip t.key) ∈ protectedExtraTagKeys := by
        rw [hkey]
        decide
      rcases List.mem_append.mp ht with ht | ht
      · simp only [List.mem_cons, List.not_mem_nil, or_false] at ht
        rcases ht with rfl | rfl | rfl | rfl | rfl
        · exact absurd hkey (by decide)
        · exact absurd hkey (by decide)
        · exact absurd hkey (by decide)
        · exact absurd hkey (show strip "Name" ≠ "ExecutionNode" by decide)
        · exact prefix_key_plain huncut.tagPrefix (by decide) (by decide) hprotected
      · exact hmore t ht hprotected
    unfold devnestAutocleanupEligible at helig
    dsimp only at helig
    rw [hnone] at helig
    simp only [Bool.and_eq_true, decide_eq_true_eq] at helig
    exact absurd (by decide) helig.2
  · rw [if_neg hnk]
    refine ⟨fun _ => hnk, fun _ => ?_⟩
    refine ((nodeTags_append (nodeTags_base huncut.tagPrefix (take 256 (stripOr nodeKey))
      (take 256 (orText (strip displayName) "devnest-node")) ?_) hmore).eligible
        (strip_take_ne_empty (by decide) hnk)).1
    refine .cons _ (.cons _ (.cons _ ?_))
    exact List.perm_middle (a := (⟨"ExecutionNode", take 256 (stripOr nodeKey)⟩ : Ec2Tag))

theorem unknown_node_not_eligible :
    devnestAutocleanupEligible (buildLaunchTagsForRunInstances none none "devnest-node"
      [("Project", "Other")]) = true ↔ stripOr none ≠ "" :=
  launch_tags_eligible_iff ⟨by decide, by decide⟩ none "devnest-node"

end Devnest
