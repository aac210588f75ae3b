import Mathlib.Data.List.Forall2
import Mathlib.Tactic.Linarith
import Devnest.ContainerEngine

/-!
# One contract, two adapters

`DockerRuntimeAdapter` asks the engine's API for a container,
`SsmDockerRuntimeAdapter` writes a `docker create` command. Both implement
`ensure_container`. What the command line makes of a flag's text is a
parameter (`DockerCli`), with what is documented of it: a label is cut at its
first `=`, a volume and a port at their colons, and `--cpus` is a decimal.

`adapters_agree_iff` says for which engines and requests the two leave the
same containers: an existing one has the mounts asked for, since only the API
adapter replaces one that has others; and for a new one the CPU limit has no
billionths beyond its sixth decimal, and no label's name has a `=`. For what a
bring-up asks only the first two can fail (`containerRequest_agrees_iff`).
-/

namespace Devnest

open PyText

/-! ## The command line -/

inductive CreateFlag where
  | label (text : String)
  | env (text : String)
  | volume (text : String)
  | publish (text : String)
  | cpus (text : String)
  | memory (text : String)
  | pidsLimit (text : String)
  | securityOpt (text : String)
  | capDrop (text : String)
  | readOnly
  | tmpfs (text : String)
  deriving DecidableEq, Repr

def CreateFlag.argv : CreateFlag → List String
  | .label t => ["--label", t]
  | .env t => ["-e", t]
  | .volume t => ["-v", t]
  | .publish t => ["-p", t]
  | .cpus t => ["--cpus", t]
  | .memory t => ["--memory", t]
  | .pidsLimit t => ["--pids-limit", t]
  | .securityOpt t => ["--security-opt", t]
  | .capDrop t => ["--cap-drop", t]
  | .readOnly => ["--read-only"]
  | .tmpfs t => ["--tmpfs", t]

def createArgv (name : String) (flags : List CreateFlag) (image : String) : List String :=
  ["docker", "create", "--name", name] ++ flags.flatMap CreateFlag.argv ++ [image]

/-- A decimal of at most nine places, in billionths. -/
def decimalNanos (text : String) : Option Nat :=
  let whole := text.toList.takeWhile (· ≠ '.')
  let places := (text.toList.dropWhile (· ≠ '.')).drop 1
  if places.length ≤ 9 then
    parseDigits (whole ++ places ++ List.replicate (9 - places.length) '0')
  else none

def bindText (b : BindMount) : String :=
  b.hostPath ++ ":" ++ b.containerPath ++ ":" ++ if b.readOnly then "ro" else "rw"

/-- What `docker create` makes of the texts of its flags; `none` is an error of the command. -/
structure DockerCli where
  label : String → Option (String × String)
  env : String → Option String
  volume : String → Option BindMount
  publish : String → Option (Int × Option Int)
  cpus : String → Option Int
  memory : String → Option Int
  pidsLimit : String → Option Int
  tmpfs : String → Option (String × String)
  label_cut : ∀ {key value : String} {p}, '=' ∉ key.toList →
    label (key ++ "=" ++ value) = some p → p = (key, value)
  env_kept : ∀ {key value text : String}, env (key ++ "=" ++ value) = some text →
    text = key ++ "=" ++ value
  volume_parts : ∀ {b b' : BindMount}, ':' ∉ b.hostPath.toList → ':' ∉ b.containerPath.toList →
    volume (bindText b) = some b' → b' = b
  publish_pair : ∀ {host container : Int} {p},
    publish (toString host ++ ":" ++ toString container) = some p →
      p = (container, if host = 0 then none else some host)
  cpus_decimal : ∀ {text : String} {n : Nat} {c : Int}, decimalNanos text = some n →
    cpus text = some c → c = n
  memory_bytes : ∀ {n m : Int}, memory (toString n) = some m → m = n
  pidsLimit_count : ∀ {n m : Int}, pidsLimit (toString n) = some m → m = n
  tmpfs_cut : ∀ {path options : String} {p}, ':' ∉ path.toList →
    tmpfs (path ++ ":" ++ options) = some p → p = (path, options)

namespace DockerCli

variable (cli : DockerCli)

/-- One flag, on the container to be created. -/
def readFlag (c : WorkspaceContainer) : CreateFlag → Option WorkspaceContainer
  | .label t => (cli.label t).map fun p => { c with labels := c.labels.insert p.1 p.2 }
  | .env t => (cli.env t).map fun text => { c with env := c.env ++ [text] }
  | .volume t => (cli.volume t).map fun b => { c with binds := c.binds ++ [b] }
  | .publish t => (cli.publish t).map fun p => { c with ports := c.ports.insert p.1 p.2 }
  | .cpus t => (cli.cpus t).map fun n => { c with quotas := { c.quotas with nanoCpus := some n } }
  | .memory t => (cli.memory t).map fun n => { c with quotas := { c.quotas with memLimit := some n } }
  | .pidsLimit t =>
      (cli.pidsLimit t).map fun n => { c with quotas := { c.quotas with pidsLimit := some n } }
  | .securityOpt t =>
      some { c with security := { c.security with securityOpt := c.security.securityOpt ++ [t] } }
  | .capDrop t => some { c with security := { c.security with capDrop := c.security.capDrop ++ [t] } }
  | .readOnly => some { c with security := { c.security with readOnly := true } }
  | .tmpfs t => (cli.tmpfs t).map fun p =>
      { c with security := { c.security with tmpfs := c.security.tmpfs ++ [p] } }

def read (c : WorkspaceContainer) (flags : List CreateFlag) : Option WorkspaceContainer :=
  flags.foldlM cli.readFlag c

end DockerCli

/-! ## `SsmDockerRuntimeAdapter` -/

namespace SsmDockerRuntimeAdapter

/-- `_resolve_project_host_path_remote`. -/
def resolveProjectHostPathRemote (projectMount : Option WorkspaceProjectMountSpec)
    (workspaceHostPath : Option String) : Except String (String × Bool) :=
  match DockerRuntimeAdapter.chosenHostPath projectMount workspaceHostPath with
  | .error m => .error m
  | .ok chosen =>
      if !startsWith chosen "/" then
        .error ("remote workspace host path must be absolute POSIX path on the execution host; " ++
          "got " ++ PyText.repr chosen)
      else .ok (chosen, projectMount.any (·.readOnly))

/-- Half to even. -/
def roundHalfEven (q : ℚ) : Int :=
  if q - q.floor < 1 / 2 then q.floor
  else if 1 / 2 < q - q.floor then q.floor + 1
  else if q.floor % 2 = 0 then q.floor else q.floor + 1

/-- Six decimal digits. -/
def sixDigits (m : Nat) : List Char :=
  [m / 100000 % 10, m / 10000 % 10, m / 1000 % 10, m / 100 % 10, m / 10 % 10, m % 10].map
    Nat.digitChar

/-- Millionths, as `.6f` writes them. -/
def fixedSix (micros : Nat) : String :=
  toString (micros / 1000000) ++ "." ++ String.ofList (sixDigits (micros % 1000000))

/-- The text of `--cpus`. -/
def cpusText (cpuLimit : ℚ) : String :=
  let cpus := rstripChar '.' (rstripChar '0' (fixedSix (roundHalfEven (cpuLimit * 1000000)).toNat))
  if cpus = "" then "0" else cpus

/-- `-p` of one binding. -/
def publishText (p : Sigma fun _ : Int => Option Int) : String :=
  toString (p.2.getD 0) ++ ":" ++ toString p.1

/-- The flags of the security spec. -/
def securityFlags : Option WorkspaceContainerSecuritySpec → List CreateFlag
  | none => []
  | some spec =>
      spec.securityOpt.map .securityOpt ++ spec.capDrop.map .capDrop ++
        if spec.readOnlyRootfs then
          [.readOnly, .tmpfs "/tmp:rw,nosuid,noexec,size=256m", .tmpfs "/run:rw,nosuid,size=64m"]
        else []

/-- The flags between the name and the image. -/
def createFlags (req : ContainerRequest) (project : BindMount) (extra : List BindMount)
    (ports : Table Int (Option Int)) : List CreateFlag :=
  ((req.labels.entries.insertionSort fun a b => a.1 ≤ b.1).map fun e => .label (e.1 ++ "=" ++ e.2)) ++
  ((req.env.entries.insertionSort fun a b => a.1 ≤ b.1).map fun e => .env (e.1 ++ "=" ++ e.2)) ++
  ((project :: extra).map fun b => .volume (bindText b)) ++
  ((ports.entries.insertionSort fun a b => toString a.1 ++ "/tcp" ≤ toString b.1 ++ "/tcp").map
    fun p => .publish (publishText p)) ++
  (req.cpuLimit.map fun q => CreateFlag.cpus (cpusText q)).toList ++
  (req.memoryLimitBytes.map fun m => CreateFlag.memory (toString m)).toList ++
  (req.pidsLimit.map fun p => CreateFlag.pidsLimit (toString p)).toList ++
  securityFlags req.securitySpec

/-- What the commands of one call come to: an error of the pull, and the id that
`docker create` prints. -/
structure RemoteAnswers where
  pullError : Option String := none
  createId : Except String String

/-- The end of `ensure_container`, where no container was found. -/
def createContainer (cli : DockerCli) (e : DockerEngine) (ans : RemoteAnswers)
    (req : ContainerRequest) : DockerEngine × Except EngineFault RuntimeEnsureResult :=
  match resolveProjectHostPathRemote req.projectMount req.workspaceHostPath with
  | .error m => (e, .error (.runtimeAdapterError m))
  | .ok (hostPath, projRo) =>
      if req.cpuLimit.any (· ≤ 0) then
        (e, .error (.runtimeAdapterError "cpu_limit must be positive when set"))
      else if req.memoryLimitBytes.any (· ≤ 0) then
        (e, .error (.runtimeAdapterError "memory_limit_bytes must be positive when set"))
      else if req.pidsLimit.any (· ≤ 0) then
        (e, .error (.runtimeAdapterError "pids_limit must be positive when set"))
      else match portBindingsFromSpec req.ports,
          DockerRuntimeAdapter.extraBinds [] req.extraBindMounts, ans.pullError, ans.createId with
        | .error m, _, _, _ => (e, .error (.runtimeAdapterError m))
        | .ok _, .error m, _, _ => (e, .error (.runtimeAdapterError m))
        | .ok _, .ok _, some m, _ => (e, .error (.runtimeAdapterError ("failed to pull image " ++
            PyText.repr (resolveImage req.image) ++ ": " ++ m)))
        | .ok _, .ok _, none, .error m => (e, .error (.runtimeAdapterError m))
        | .ok ports, .ok extra, none, .ok id =>
            let project : BindMount :=
              ⟨hostPath, DockerRuntimeAdapter.workspaceProjectContainerPath, projRo⟩
            let flags := createFlags req project extra ports
            match cli.read { name := req.name, image := resolveImage req.image } flags with
            | none => (e, .error (.runtimeAdapterError (runnerText
                (createArgv req.name flags (resolveImage req.image)))))
            | some c =>
                match e.create id c with
                | .error m => (e, .error (.runtimeAdapterError m))
                | .ok e' => (e', .ok ⟨id, true, .created⟩)
where
  /-- The runner's error names the command. -/
  runnerText (argv : List String) : String := "ssm remote command failed: " ++ shlexJoin argv

/-- `ensure_container`, where every inspection comes back. -/
def ensureContainer (cli : DockerCli) (e : DockerEngine) (ans : RemoteAnswers)
    (req : ContainerRequest) : DockerEngine × Except EngineFault RuntimeEnsureResult :=
  if strip req.name = "" then
    (e, .error (.runtimeAdapterError "container name must be non-empty"))
  else
    let rid := stripOr req.existingContainerId
    match if rid ≠ "" then e.get rid else none with
    | some (id, c) => (e, .ok ⟨id, false, c.state⟩)
    | none =>
        match e.get req.name with
        | some (id, c) => (e, .ok ⟨id, false, c.state⟩)
        | none => createContainer cli e ans req

end SsmDockerRuntimeAdapter

/-! ## The text of a CPU limit -/

section Decimal

open SsmDockerRuntimeAdapter

theorem sixDigits_isDigit {m : Nat} {c : Char} (h : c ∈ sixDigits m) : c.isDigit = true := by
  obtain ⟨d, hd, rfl⟩ := List.mem_map.mp h
  have hlt : d < 10 := by
    simp only [List.mem_cons, List.not_mem_nil, or_false] at hd
    omega
  have hall : ∀ d < 10, (Nat.digitChar d).isDigit = true := by decide
  exact hall d hlt

theorem ofDigitChars_sixDigits {m : Nat} (hm : m < 1000000) (init : Nat) :
    Nat.ofDigitChars 10 (sixDigits m) init = 1000000 * init + m := by
  unfold sixDigits
  simp only [List.map_cons, List.map_nil]
  rw [Nat.ofDigitChars_cons_digitChar_of_lt_ten (Nat.mod_lt _ (by decide)),
    Nat.ofDigitChars_cons_digitChar_of_lt_ten (Nat.mod_lt _ (by decide)),
    Nat.ofDigitChars_cons_digitChar_of_lt_ten (Nat.mod_lt _ (by decide)),
    Nat.ofDigitChars_cons_digitChar_of_lt_ten (Nat.mod_lt _ (by decide)),
    Nat.ofDigitChars_cons_digitChar_of_lt_ten (Nat.mod_lt _ (by decide)),
    Nat.ofDigitChars_cons_digitChar_of_lt_ten (Nat.mod_lt _ (by decide)), Nat.ofDigitChars_nil]
  omega

/-- Trailing zeros go, and the point stops them. -/
theorem rdropWhile_point {p : Char → Bool} (hp : p '.' = false) (l t : List Char) :
    (l ++ '.' :: t).rdropWhile p = l ++ '.' :: t.rdropWhile p := by
  induction t using List.reverseRecOn with
  | nil => rw [List.rdropWhile_concat_neg _ _ _ (by simp [hp]), List.rdropWhile_nil]
  | append_singleton t c ih =>
      rw [← List.cons_append, ← List.append_assoc, List.rdropWhile_concat, List.rdropWhile_concat]
      split_ifs
      · exact ih
      · rw [List.append_assoc, List.cons_append]

/-- Cutting the zeros off a digit list and putting them on again. -/
theorem rdropWhile_zeros (l : List Char) :
    l.rdropWhile (· = '0') ++ List.replicate (l.length - (l.rdropWhile (· = '0')).length) '0' = l := by
  have hsplit : l.rdropWhile (· = '0') ++ l.rtakeWhile (· = '0') = l :=
    List.rdropWhile_append_rtakeWhile
  have hzeros : l.rtakeWhile (· = '0')
      = List.replicate (l.rtakeWhile (· = '0')).length '0' :=
    List.eq_replicate_of_mem fun c hc => by simpa using List.mem_rtakeWhile_imp hc
  have hlen := congrArg List.length hsplit
  rw [List.length_append] at hlen
  have hcount : l.length - (l.rdropWhile (· = '0')).length = (l.rtakeWhile (· = '0')).length := by
    omega
  rw [hcount, ← hzeros]
  exact hsplit

theorem toString_digits (n : Nat) : ∀ c ∈ (toString n).toList, c.isDigit = true :=
  fun _ => isDigit_of_mem_toString

theorem toString_ne_nil (n : Nat) : (toString n).toList ≠ [] := by
  simp [Nat.toString_eq_repr]

/-- What is left of the six places: the text is the whole part, and the places if there are
any. -/
theorem cpusText_toList (q : ℚ) :
    let n := (roundHalfEven (q * 1000000)).toNat
    let places := (sixDigits (n % 1000000)).rdropWhile (· = '0')
    (cpusText q).toList = (toString (n / 1000000)).toList
      ++ if places = [] then [] else '.' :: places := by
  intro n places
  have hzeros : (rstripChar '0' (fixedSix n)).toList
      = (toString (n / 1000000)).toList ++ '.' :: places := by
    unfold rstripChar fixedSix
    simp only [String.toList_ofList, String.toList_append, List.append_assoc]
    exact rdropWhile_point (p := fun c => decide (c = '0')) (by decide) _ _
  have hstrip : (rstripChar '.' (rstripChar '0' (fixedSix n))).toList
      = (toString (n / 1000000)).toList ++ if places = [] then [] else '.' :: places := by
    rw [rstripChar, String.toList_ofList, hzeros]
    change ((toString (n / 1000000)).toList ++ '.' :: places).rdropWhile (· = '.') = _
    cases hp : places using List.reverseRecOn with
    | nil =>
        rw [if_pos rfl, List.append_nil, List.rdropWhile_concat_pos _ _ _ (by decide),
          List.rdropWhile_eq_self_iff]
        intro hne hdot
        have hdigit := toString_digits _ _ (List.getLast_mem hne)
        rw [of_decide_eq_true hdot] at hdigit
        exact absurd hdigit (by decide)
    | append_singleton t c =>
        have hc : c.isDigit = true := by
          refine sixDigits_isDigit (m := n % 1000000)
            ((List.rdropWhile_prefix (fun c : Char => decide (c = '0')) _).subset ?_)
          change c ∈ places
          rw [hp]
          exact List.mem_append_right _ (List.mem_singleton_self c)
        have hne : c ≠ '.' := by
          rintro rfl
          exact absurd hc (by decide)
        rw [if_neg (by simp), ← List.cons_append, ← List.append_assoc,
          List.rdropWhile_concat_neg _ _ _ (by simpa using hne)]
  unfold cpusText
  dsimp only
  rw [if_neg, hstrip]
  intro hempty
  rw [hempty] at hstrip
  exact toString_ne_nil _ (List.append_eq_nil_iff.mp hstrip.symm).1

/-- The text is read as the rounded millionths. -/
theorem decimalNanos_cpusText (q : ℚ) :
    decimalNanos (cpusText q) = some (1000 * (roundHalfEven (q * 1000000)).toNat) := by
  have htext := cpusText_toList q
  generalize (roundHalfEven (q * 1000000)).toNat = n at htext
  dsimp only at htext
  have hnodot : ∀ c ∈ (toString (n / 1000000)).toList, decide (c ≠ '.') = true := by
    intro c hc
    have hdigit := toString_digits _ c hc
    refine decide_eq_true fun hdot => ?_
    rw [hdot] at hdigit
    exact absurd hdigit (by decide)
  have hwhole : (cpusText q).toList.takeWhile (· ≠ '.') = (toString (n / 1000000)).toList := by
    rw [htext, List.takeWhile_append_of_pos hnodot]
    split_ifs <;> simp
  have hplaces : ((cpusText q).toList.dropWhile (· ≠ '.')).drop 1
      = (sixDigits (n % 1000000)).rdropWhile (· = '0') := by
    rw [htext, List.dropWhile_append_of_pos hnodot]
    split_ifs with hnil
    · simp [hnil]
    · simp
  have hlen : ((sixDigits (n % 1000000)).rdropWhile (· = '0')).length ≤ 6 :=
    (List.rdropWhile_prefix (fun c : Char => decide (c = '0')) _).length_le
  have hpad : (sixDigits (n % 1000000)).rdropWhile (· = '0')
      ++ List.replicate (9 - ((sixDigits (n % 1000000)).rdropWhile (· = '0')).length) '0'
      = sixDigits (n % 1000000) ++ List.replicate 3 '0' := by
    have hsix := rdropWhile_zeros (sixDigits (n % 1000000))
    have hsplit : 9 - ((sixDigits (n % 1000000)).rdropWhile (· = '0')).length
        = ((sixDigits (n % 1000000)).length
          - ((sixDigits (n % 1000000)).rdropWhile (· = '0')).length) + 3 := by
      have hsixlen : (sixDigits (n % 1000000)).length = 6 := rfl
      omega
    rw [hsplit, List.replicate_add, ← List.append_assoc, hsix]
  unfold decimalNanos
  simp only [hwhole, hplaces]
  rw [if_pos (by omega), List.append_assoc, hpad]
  obtain ⟨c, t, hct⟩ := List.exists_cons_of_ne_nil (toString_ne_nil (n / 1000000))
  have hdigits : ∀ d ∈ (toString (n / 1000000)).toList
      ++ (sixDigits (n % 1000000) ++ List.replicate 3 '0'), d.isDigit = true := by
    intro d hd
    rcases List.mem_append.mp hd with hd | hd
    · exact toString_digits _ d hd
    · rcases List.mem_append.mp hd with hd | hd
      · exact sixDigits_isDigit hd
      · rw [List.eq_of_mem_replicate hd]
        decide
  have hfold := foldl_digits hdigits 0
  have hvalue : Nat.ofDigitChars 10 ((toString (n / 1000000)).toList
      ++ (sixDigits (n % 1000000) ++ List.replicate 3 '0')) 0 = 1000 * n := by
    have hint : Nat.ofDigitChars 10 (toString (n / 1000000)).toList 0 = n / 1000000 := by
      have htoDigits : (toString (n / 1000000)).toList = Nat.toDigits 10 (n / 1000000) := by
        simp [Nat.toString_eq_repr]
      rw [htoDigits]
      exact Nat.ofDigitChars_ten_toDigits
    rw [Nat.ofDigitChars_append, hint, Nat.ofDigitChars_append,
      ofDigitChars_sixDigits (Nat.mod_lt _ (by decide)), Nat.ofDigitChars_replicate_zero]
    omega
  rw [hvalue] at hfold
  rw [hct, List.cons_append] at hfold ⊢
  exact hfold

/-- Rounding to millionths keeps the billionths exactly when there are none beyond them. -/
theorem floor_eq_rounded_iff (q : ℚ) :
    (q * 1000000000).floor = 1000 * roundHalfEven (q * 1000000)
      ↔ 1000 ∣ (q * 1000000000).floor := by
  constructor
  · exact fun h => ⟨_, h⟩
  · rintro ⟨j, hj⟩
    have hlow : ((1000 * j : Int) : ℚ) ≤ q * 1000000000 := by
      rw [← hj]
      exact Rat.floor_le _
    have hhigh : q * 1000000000 < ((1000 * j + 1 : Int) : ℚ) := by
      rw [← hj]
      exact Rat.lt_floor_add_one _
    push_cast at hlow hhigh
    have hle : j ≤ (q * 1000000).floor := by
      rw [Rat.le_floor_iff]
      linarith
    have hlt : (q * 1000000).floor < j + 1 := by
      rw [Rat.floor_lt_iff]
      push_cast
      linarith
    have hfloor : (q * 1000000).floor = j := by omega
    rw [hj]
    unfold roundHalfEven
    rw [hfloor, if_pos (by linarith)]

end Decimal

/-! ## What is read of the flags -/

section Read

variable (cli : DockerCli) {c c' : WorkspaceContainer}

/-- A list of flags, one after the other. -/
theorem read_append {xs ys : List CreateFlag} (h : cli.read c (xs ++ ys) = some c') :
    ∃ m, cli.read c xs = some m ∧ cli.read m ys = some c' := by
  unfold DockerCli.read at h
  rw [List.foldlM_append] at h
  exact Option.bind_eq_some_iff.mp h

theorem read_cons {f : CreateFlag} {fs : List CreateFlag} (h : cli.read c (f :: fs) = some c') :
    ∃ m, cli.readFlag c f = some m ∧ cli.read m fs = some c' := by
  unfold DockerCli.read at h
  rw [List.foldlM_cons] at h
  exact Option.bind_eq_some_iff.mp h

theorem read_nil (h : cli.read c [] = some c') : c = c' := Option.some.inj h

/-- A `key=value` text, cut at its first `=`. -/
theorem cut_equals (key value : String) :
    ∃ a b : String, '=' ∉ a.toList ∧ key ++ "=" ++ value = a ++ "=" ++ b := by
  have hmem : '=' ∈ (key ++ "=" ++ value).toList := by simp [String.toList_append]
  obtain ⟨x, y, hxy, hx⟩ := List.eq_append_cons_of_mem hmem
  refine ⟨String.ofList x, String.ofList y, by rwa [String.toList_ofList],
    String.toList_injective ?_⟩
  rw [hxy]
  simp [String.toList_append]

/-- Labels: names without a `=` are read as they are. -/
theorem read_labels {l : List (Sigma fun _ : String => String)}
    (hkeys : ∀ e ∈ l, '=' ∉ e.1.toList)
    (h : cli.read c (l.map fun e => .label (e.1 ++ "=" ++ e.2)) = some c') :
    c' = { c with labels := l.foldl (fun t e => t.insert e.1 e.2) c.labels } := by
  induction l generalizing c with
  | nil => exact (read_nil cli h).symm
  | cons e l ih =>
      obtain ⟨m, hm, hrest⟩ := read_cons cli h
      obtain ⟨p, hp, rfl⟩ := Option.map_eq_some_iff.mp hm
      obtain rfl := cli.label_cut (hkeys e List.mem_cons_self) hp
      exact ih (fun e he => hkeys e (List.mem_cons_of_mem _ he)) hrest

/-- Other names never come back. -/
theorem read_labels_lookup {l : List (Sigma fun _ : String => String)} {key : String}
    (hkey : '=' ∈ key.toList) (h : cli.read c (l.map fun e => .label (e.1 ++ "=" ++ e.2)) = some c') :
    c'.labels.lookup key = c.labels.lookup key := by
  induction l generalizing c with
  | nil => rw [read_nil cli h]
  | cons e l ih =>
      obtain ⟨m, hm, hrest⟩ := read_cons cli h
      obtain ⟨p, hp, rfl⟩ := Option.map_eq_some_iff.mp hm
      have hp1 : '=' ∉ p.1.toList := by
        obtain ⟨a, b, ha, hcut⟩ := cut_equals e.1 e.2
        rw [hcut] at hp
        rw [cli.label_cut ha hp]
        exact ha
      rw [ih hrest, Table.lookup_insert_eq, if_neg]
      rintro rfl
      exact hp1 hkey

/-- Labels touch nothing else. -/
theorem read_labels_rest {l : List (Sigma fun _ : String => String)}
    (h : cli.read c (l.map fun e => .label (e.1 ++ "=" ++ e.2)) = some c') :
    c' = { c with labels := c'.labels } := by
  induction l generalizing c with
  | nil => rw [read_nil cli h]
  | cons e l ih =>
      obtain ⟨m, hm, hrest⟩ := read_cons cli h
      obtain ⟨p, -, rfl⟩ := Option.map_eq_some_iff.mp hm
      rw [ih hrest]

theorem read_envs {l : List (Sigma fun _ : String => String)}
    (h : cli.read c (l.map fun e => .env (e.1 ++ "=" ++ e.2)) = some c') :
    c' = { c with env := c.env ++ l.map fun e => e.1 ++ "=" ++ e.2 } := by
  induction l generalizing c with
  | nil =>
      rw [← read_nil cli h]
      simp
  | cons e l ih =>
      obtain ⟨m, hm, hrest⟩ := read_cons cli h
      obtain ⟨p, hp, rfl⟩ := Option.map_eq_some_iff.mp hm
      obtain rfl := cli.env_kept hp
      rw [ih hrest]
      simp

theorem read_volumes {l : List BindMount}
    (hcolon : ∀ b ∈ l, ':' ∉ b.hostPath.toList ∧ ':' ∉ b.containerPath.toList)
    (h : cli.read c (l.map fun b => .volume (bindText b)) = some c') :
    c' = { c with binds := c.binds ++ l } := by
  induction l generalizing c with
  | nil =>
      rw [← read_nil cli h]
      simp
  | cons b l ih =>
      obtain ⟨m, hm, hrest⟩ := read_cons cli h
      obtain ⟨p, hp, rfl⟩ := Option.map_eq_some_iff.mp hm
      have hb := hcolon b List.mem_cons_self
      obtain rfl := cli.volume_parts hb.1 hb.2 hp
      rw [ih (fun b hb => hcolon b (List.mem_cons_of_mem _ hb)) hrest]
      simp

/-- Ports: a pinned one is positive, so only `0` stands for one the engine picks. -/
theorem read_ports {l : List (Sigma fun _ : Int => Option Int)}
    (hpos : ∀ p ∈ l, ∀ host, p.2 = some host → 0 < host)
    (h : cli.read c (l.map fun p => .publish (SsmDockerRuntimeAdapter.publishText p)) = some c') :
    c' = { c with ports := l.foldl (fun t e => t.insert e.1 e.2) c.ports } := by
  induction l generalizing c with
  | nil => exact (read_nil cli h).symm
  | cons e l ih =>
      obtain ⟨m, hm, hrest⟩ := read_cons cli h
      obtain ⟨p, hp, rfl⟩ := Option.map_eq_some_iff.mp hm
      have hport : p = (e.1, e.2) := by
        have hread := cli.publish_pair hp
        rw [hread]
        obtain ⟨port, host⟩ := e
        cases host with
        | none => rfl
        | some host =>
            have hne : host ≠ 0 := (hpos ⟨port, some host⟩ List.mem_cons_self host rfl).ne'
            exact congrArg (Prod.mk port) (if_neg hne)
      subst hport
      exact ih (fun p hp => hpos p (List.mem_cons_of_mem _ hp)) hrest

/-- The limits, each if it is set. -/
theorem read_limits {cpuLimit : Option ℚ} {memoryLimitBytes pidsLimit : Option Int}
    (hquotas : c.quotas = {})
    (h : cli.read c ((cpuLimit.map fun q => CreateFlag.cpus
        (SsmDockerRuntimeAdapter.cpusText q)).toList ++
      (memoryLimitBytes.map fun m => CreateFlag.memory (toString m)).toList ++
      (pidsLimit.map fun p => CreateFlag.pidsLimit (toString p)).toList) = some c') :
    c' = { c with quotas :=
      { nanoCpus := cpuLimit.map fun q =>
          (1000 * (SsmDockerRuntimeAdapter.roundHalfEven (q * 1000000)).toNat : Nat)
        memLimit := memoryLimitBytes
        pidsLimit := pidsLimit } } := by
  obtain ⟨m₂, h, hpids⟩ := read_append cli h
  obtain ⟨m₁, hcpu, hmem⟩ := read_append cli h
  have hm₁ : m₁ = { c with quotas := { nanoCpus := cpuLimit.map fun q =>
      (1000 * (SsmDockerRuntimeAdapter.roundHalfEven (q * 1000000)).toNat : Nat) } } := by
    cases cpuLimit with
    | none =>
        rw [← read_nil cli hcpu]
        simp only [Option.map_none, ← hquotas]
    | some q =>
        obtain ⟨m, hm, hrest⟩ := read_cons cli hcpu
        obtain ⟨n, hn, rfl⟩ := Option.map_eq_some_iff.mp hm
        rw [← read_nil cli hrest, cli.cpus_decimal (decimalNanos_cpusText q) hn, hquotas]
        rfl
  have hm₂ : m₂ = { m₁ with quotas := { m₁.quotas with memLimit := memoryLimitBytes } } := by
    cases memoryLimitBytes with
    | none =>
        rw [← read_nil cli hmem, hm₁]
    | some b =>
        obtain ⟨m, hm, hrest⟩ := read_cons cli hmem
        obtain ⟨n, hn, rfl⟩ := Option.map_eq_some_iff.mp hm
        rw [← read_nil cli hrest, cli.memory_bytes hn]
  have hm₃ : c' = { m₂ with quotas := { m₂.quotas with pidsLimit := pidsLimit } } := by
    cases pidsLimit with
    | none =>
        rw [← read_nil cli hpids, hm₂, hm₁]
    | some b =>
        obtain ⟨m, hm, hrest⟩ := read_cons cli hpids
        obtain ⟨n, hn, rfl⟩ := Option.map_eq_some_iff.mp hm
        rw [← read_nil cli hrest, cli.pidsLimit_count hn]
  rw [hm₃, hm₂, hm₁]

theorem read_securityOpts {l : List String}
    (h : cli.read c (l.map .securityOpt) = some c') :
    c' = { c with security := { c.security with
      securityOpt := c.security.securityOpt ++ l } } := by
  induction l generalizing c with
  | nil =>
      rw [← read_nil cli h]
      simp
  | cons t l ih =>
      obtain ⟨m, hm, hrest⟩ := read_cons cli h
      obtain rfl := Option.some.inj hm
      rw [ih hrest]
      simp

theorem read_capDrops {l : List String} (h : cli.read c (l.map .capDrop) = some c') :
    c' = { c with security := { c.security with capDrop := c.security.capDrop ++ l } } := by
  induction l generalizing c with
  | nil =>
      rw [← read_nil cli h]
      simp
  | cons t l ih =>
      obtain ⟨m, hm, hrest⟩ := read_cons cli h
      obtain rfl := Option.some.inj hm
      rw [ih hrest]
      simp

theorem read_security {spec : Option WorkspaceContainerSecuritySpec} (hsec : c.security = {})
    (h : cli.read c (SsmDockerRuntimeAdapter.securityFlags spec) = some c') :
    c' = { c with security := securityOf spec } := by
  cases spec with
  | none =>
      rw [← read_nil cli h]
      simp only [securityOf, ← hsec]
  | some spec =>
      obtain ⟨m₂, h, hroot⟩ := read_append cli h
      obtain ⟨m₁, hopts, hcaps⟩ := read_append cli h
      rw [read_securityOpts cli hopts] at hcaps
      rw [read_capDrops cli hcaps] at hroot
      cases hro : spec.readOnlyRootfs with
      | false =>
          rw [hro, if_neg Bool.false_ne_true] at hroot
          rw [← read_nil cli hroot]
          simp [securityOf, hsec, hro]
      | true =>
          rw [hro, if_pos rfl] at hroot
          obtain ⟨m, hm, hroot⟩ := read_cons cli hroot
          obtain rfl := Option.some.inj hm
          obtain ⟨m', hm', hroot⟩ := read_cons cli hroot
          obtain ⟨p, hp, rfl⟩ := Option.map_eq_some_iff.mp hm'
          obtain rfl := @DockerCli.tmpfs_cut cli "/tmp" "rw,nosuid,noexec,size=256m" _
            (by decide) hp
          obtain ⟨m'', hm'', hroot⟩ := read_cons cli hroot
          obtain ⟨p, hp, rfl⟩ := Option.map_eq_some_iff.mp hm''
          obtain rfl := @DockerCli.tmpfs_cut cli "/run" "rw,nosuid,size=64m" _
            (by decide) hp
          rw [← read_nil cli hroot]
          simp [securityOf, hsec, hro]

end Read

/-! ## The same containers -/

/-- A table filled from its own entries in another order. -/
theorem lookup_foldl_insert {κ ρ : Type} [DecidableEq κ] {l : List (Sigma fun _ : κ => ρ)}
    (hnodup : l.NodupKeys) (t : Table κ ρ) (k : κ) :
    (l.foldl (fun t e => t.insert e.1 e.2) t).lookup k = (l.dlookup k).or (t.lookup k) := by
  induction l generalizing t with
  | nil => rfl
  | cons e l ih =>
      obtain ⟨k', v⟩ := e
      obtain ⟨hnot, hnodup⟩ := List.nodupKeys_cons.mp hnodup
      rw [List.foldl_cons, ih hnodup, Table.lookup_insert_eq]
      by_cases hk : k = k'
      · subst hk
        rw [if_pos rfl, List.dlookup_cons_eq, List.dlookup_eq_none.mpr hnot]
        rfl
      · rw [if_neg hk, List.dlookup_cons_ne _ _ hk]

theorem lookup_sorted {κ ρ : Type} [DecidableEq κ] (t : Table κ ρ) {r : (Sigma fun _ : κ => ρ) →
    (Sigma fun _ : κ => ρ) → Prop} [DecidableRel r] (k : κ) :
    ((t.entries.insertionSort r).foldl (fun t e => t.insert e.1 e.2) (∅ : Table κ ρ)).lookup k
      = t.lookup k := by
  have hperm := List.perm_insertionSort r t.entries
  have hnodup : (t.entries.insertionSort r).NodupKeys :=
    (List.perm_nodupKeys hperm).mpr t.nodupKeys
  rw [lookup_foldl_insert hnodup, List.perm_dlookup k hnodup hperm, AList.lookup_empty,
    Option.or_none]
  rfl

/-- The same binds, labels, environment, ports, limits and security, under the same name. -/
structure SameSettings (c d : WorkspaceContainer) : Prop where
  name : c.name = d.name
  binds : c.binds.Perm d.binds
  labels : ∀ k, c.labels.lookup k = d.labels.lookup k
  env : c.env.Perm d.env
  ports : ∀ p, c.ports.lookup p = d.ports.lookup p
  quotas : c.quotas = d.quotas
  security : c.security = d.security

theorem SameSettings.refl (c : WorkspaceContainer) : SameSettings c c :=
  ⟨rfl, .refl _, fun _ => rfl, .refl _, fun _ => rfl, rfl, rfl⟩

/-- The same containers, with the same settings. -/
def SameRuntimes (e e' : DockerEngine) : Prop :=
  ∀ i, Option.Rel SameSettings (e.containers.lookup i) (e'.containers.lookup i)

theorem SameRuntimes.refl (e : DockerEngine) : SameRuntimes e e := by
  intro i
  cases e.containers.lookup i with
  | none => exact .none
  | some c => exact .some (.refl c)

theorem create_containers {e e' : DockerEngine} {id : String} {c : WorkspaceContainer}
    (h : e.create id c = .ok e') : e'.containers = e.containers.insert id c := by
  unfold DockerEngine.create at h
  split at h
  · rw [← Except.ok.inj h]
  · cases h

/-- Two creations under one id. -/
theorem sameRuntimes_create {e e₁ e₂ : DockerEngine} {id : String} {c d : WorkspaceContainer}
    (h₁ : e.create id c = .ok e₁) (h₂ : e.create id d = .ok e₂) :
    SameRuntimes e₁ e₂ ↔ SameSettings c d := by
  constructor
  · intro h
    have hid := h id
    rw [DockerEngine.lookup_create h₁, DockerEngine.lookup_create h₂] at hid
    cases hid with
    | some hsame => exact hsame
  · intro hsame i
    rw [create_containers h₁, create_containers h₂, Table.lookup_insert_eq, Table.lookup_insert_eq]
    split_ifs
    · exact .some hsame
    · exact SameRuntimes.refl e i

theorem DockerRuntimeAdapter.createContainer_eq {e e' : DockerEngine} {ans : EngineAnswers}
    {req : ContainerRequest} {r : RuntimeEnsureResult}
    (h : DockerRuntimeAdapter.createContainer e ans req = (e', .ok r)) :
    ∃ project ports extra id,
      resolveProjectHostPathForCreate req.projectMount req.workspaceHostPath = .ok project ∧
      (∀ q, req.cpuLimit = some q → 0 < q) ∧
      portBindingsFromSpec req.ports = .ok ports ∧ extraBinds [] req.extraBindMounts = .ok extra ∧
      ans.createId = .ok id ∧ r = ⟨id, true, .created⟩ ∧
      e.create id
        { name := req.name
          image := resolveImage req.image
          binds := ⟨project.1, workspaceProjectContainerPath, project.2⟩ :: extra
          labels := req.labels
          quotas := quotasOf req.cpuLimit req.memoryLimitBytes req.pidsLimit
          env := envTexts req.env
          ports := ports
          security := securityOf req.securitySpec } = .ok e' := by
  unfold createContainer at h
  split at h
  · cases h
  · rename_i hostPath projRo hproject
    split_ifs at h with hcpu hmem hpids
    · cases h
    · cases h
    · cases h
    · split at h
      · cases h
      · cases h
      · cases h
      · rename_i ports extra id hports hextra hid
        split at h
        · cases h
        · rename_i hcreate
          obtain ⟨rfl, hr⟩ := Prod.mk.inj h
          refine ⟨(hostPath, projRo), ports, extra, id, hproject, fun q hq => ?_, hports, hextra,
            hid, (Except.ok.inj hr).symm, hcreate⟩
          rw [hq] at hcpu
          simpa using hcpu

theorem SsmDockerRuntimeAdapter.createContainer_eq {cli : DockerCli} {e e' : DockerEngine}
    {ans : RemoteAnswers} {req : ContainerRequest} {r : RuntimeEnsureResult}
    (h : SsmDockerRuntimeAdapter.createContainer cli e ans req = (e', .ok r)) :
    ∃ project ports extra id c,
      resolveProjectHostPathRemote req.projectMount req.workspaceHostPath = .ok project ∧
      portBindingsFromSpec req.ports = .ok ports ∧
      DockerRuntimeAdapter.extraBinds [] req.extraBindMounts = .ok extra ∧
      ans.createId = .ok id ∧ r = ⟨id, true, .created⟩ ∧
      cli.read { name := req.name, image := resolveImage req.image }
        (createFlags req
          ⟨project.1, DockerRuntimeAdapter.workspaceProjectContainerPath, project.2⟩ extra ports)
        = some c ∧ e.create id c = .ok e' := by
  unfold createContainer at h
  split at h
  · cases h
  · rename_i hostPath projRo hproject
    split_ifs at h with hcpu hmem hpids
    · cases h
    · cases h
    · cases h
    · split at h
      · cases h
      · cases h
      · cases h
      · cases h
      · rename_i ports extra id hports hextra _ hid
        dsimp only at h
        split at h
        · cases h
        · rename_i c hread
          split at h
          · cases h
          · rename_i hcreate
            obtain ⟨rfl, hr⟩ := Prod.mk.inj h
            exact ⟨(hostPath, projRo), ports, extra, id, c, hproject, hports, hextra, hid,
              (Except.ok.inj hr).symm, hread, hcreate⟩

/-- A pinned host port is positive. -/
theorem portBindingsFromSpec_pos {l : List (Int × Int)} {ports : Table Int (Option Int)}
    (h : portBindingsFromSpec l = .ok ports) :
    ∀ p ∈ ports.entries, ∀ host, p.2 = some host → 0 < host := by
  have hfold : ∀ (l : List (Int × Int)) (t : Table Int (Option Int)),
      (∀ k host, t.lookup k = some (some host) → 0 < host) →
      l.foldlM (fun (bindings : Table Int (Option Int)) (p : Int × Int) =>
        if p.2 ≤ 0 then
          Except.error ("container port in ports= must be positive, got " ++ toString p.2)
        else .ok (bindings.insert p.2 (if p.1 ≤ 0 then none else some p.1))) t = .ok ports →
      ∀ k host, ports.lookup k = some (some host) → 0 < host := by
    intro l
    induction l with
    | nil =>
        intro t ht hok
        obtain rfl : t = ports := Except.ok.inj hok
        exact ht
    | cons p l ih =>
        intro t ht hok
        rw [List.foldlM_cons] at hok
        by_cases hport : p.2 ≤ 0
        · rw [if_pos hport] at hok
          cases hok
        · rw [if_neg hport] at hok
          refine ih (t.insert p.2 (if p.1 ≤ 0 then none else some p.1)) (fun k host hlookup => ?_) hok
          rw [Table.lookup_insert_eq] at hlookup
          by_cases hk : k = p.2
          · rw [if_pos hk] at hlookup
            by_cases hhost : p.1 ≤ 0
            · rw [if_pos hhost] at hlookup
              cases hlookup
            · rw [if_neg hhost] at hlookup
              cases hlookup
              omega
          · rw [if_neg hk] at hlookup
            exact ht k host hlookup
  intro p hp host hhost
  refine hfold l ∅ (fun k host hk => ?_) h p.1 host ?_
  · rw [AList.lookup_empty] at hk
    cases hk
  · rw [← hhost]
    exact AList.mem_lookup_iff.mpr hp

theorem not_mem_strip {s : String} {c : Char} (h : c ∉ s.toList) : c ∉ (strip s).toList := by
  rw [strip, String.toList_ofList]
  intro hmem
  exact h ((List.dropWhile_suffix _).subset ((stripChars_isPrefix s.toList).subset hmem))

theorem not_mem_stripOr {s : Option String} {c : Char} (h : ∀ t, s = some t → c ∉ t.toList) :
    c ∉ (stripOr s).toList := by
  cases s with
  | none => exact List.not_mem_nil
  | some t => exact not_mem_strip (h t rfl)

/-- Stripping brings no colon into a mount. -/
theorem extraBinds_colon {l : List BindMount} {seen : List String} {extra : List BindMount}
    (hcolon : ∀ b ∈ l, ':' ∉ b.hostPath.toList ∧ ':' ∉ b.containerPath.toList)
    (h : DockerRuntimeAdapter.extraBinds seen l = .ok extra) :
    ∀ b ∈ extra, ':' ∉ b.hostPath.toList ∧ ':' ∉ b.containerPath.toList := by
  induction l generalizing seen extra with
  | nil =>
      obtain rfl : [] = extra := Except.ok.inj h
      simp
  | cons b l ih =>
      unfold DockerRuntimeAdapter.extraBinds at h
      dsimp only at h
      generalize (if rstripChar '/' (strip b.containerPath) = "" then "/"
        else rstripChar '/' (strip b.containerPath)) = dest at h
      split_ifs at h
      generalize hrest : DockerRuntimeAdapter.extraBinds _ l = tail at h
      cases tail with
      | error m => cases h
      | ok rest =>
          obtain rfl := Except.ok.inj h
          intro b' hb'
          rcases List.mem_cons.mp hb' with rfl | hb'
          · have hb := hcolon b List.mem_cons_self
            exact ⟨not_mem_strip hb.1, not_mem_strip hb.2⟩
          · exact ih (fun b hb => hcolon b (List.mem_cons_of_mem _ hb)) hrest b' hb'

/-- The claim's paths: none has a colon. -/
structure ContainerRequest.NoColons (req : ContainerRequest) : Prop where
  project : ∀ m, req.projectMount = some m → ':' ∉ m.hostPath.toList
  workspace : ∀ p, req.workspaceHostPath = some p → ':' ∉ p.toList
  extra : ∀ b ∈ req.extraBindMounts, ':' ∉ b.hostPath.toList ∧ ':' ∉ b.containerPath.toList

theorem chosenHostPath_colon {req : ContainerRequest} (h : req.NoColons) {path : String}
    (hpath : DockerRuntimeAdapter.chosenHostPath req.projectMount req.workspaceHostPath = .ok path) :
    ':' ∉ path.toList := by
  have hpm : ':' ∉ (stripOr (req.projectMount.map (·.hostPath))).toList :=
    not_mem_stripOr fun t ht => by
      obtain ⟨m, hm, rfl⟩ := Option.map_eq_some_iff.mp ht
      exact h.project m hm
  have hwh := not_mem_stripOr h.workspace
  unfold DockerRuntimeAdapter.chosenHostPath at hpath
  dsimp only at hpath
  split_ifs at hpath
  · obtain rfl := Except.ok.inj hpath
    exact hpm
  · obtain rfl := Except.ok.inj hpath
    exact hwh

/-- Both adapters resolve the project's path to the same one. -/
theorem resolve_same {pm : Option WorkspaceProjectMountSpec} {wh : Option String}
    {x y : String × Bool}
    (hx : DockerRuntimeAdapter.resolveProjectHostPathForCreate pm wh = .ok x)
    (hy : SsmDockerRuntimeAdapter.resolveProjectHostPathRemote pm wh = .ok y) :
    x = y ∧ DockerRuntimeAdapter.chosenHostPath pm wh = .ok x.1 := by
  unfold DockerRuntimeAdapter.resolveProjectHostPathForCreate at hx
  unfold SsmDockerRuntimeAdapter.resolveProjectHostPathRemote at hy
  cases hchosen : DockerRuntimeAdapter.chosenHostPath pm wh with
  | error m =>
      rw [hchosen] at hx
      cases hx
  | ok path =>
      rw [hchosen] at hx hy
      dsimp only at hx hy
      split_ifs at hx hy
      obtain rfl := Except.ok.inj hx
      obtain rfl := Except.ok.inj hy
      exact ⟨rfl, rfl⟩

/-! ## Agreement -/

/-- An existing container has the mounts asked for, if any are. For a new one the CPU limit has no
billionths beyond its sixth decimal, and no label's name a `=`. -/
def AdaptersAgree (e : DockerEngine) (req : ContainerRequest) : Prop :=
  match DockerRuntimeAdapter.existingContainer e req with
  | some (_, c) =>
      DockerRuntimeAdapter.mountsFit req.workspaceHostPath req.extraBindMounts c = true
  | none =>
      (∀ q, req.cpuLimit = some q → 1000 ∣ (q * 1000000000).floor) ∧
        ∀ k ∈ req.labels, '=' ∉ k.toList

section Agreement

variable {cli : DockerCli} {e : DockerEngine} {req : ContainerRequest}

/-- The inspections of the remote adapter find what the other one finds. -/
theorem ssm_existing {ans : SsmDockerRuntimeAdapter.RemoteAnswers} (hname : strip req.name ≠ "") :
    SsmDockerRuntimeAdapter.ensureContainer cli e ans req =
      match DockerRuntimeAdapter.existingContainer e req with
      | some (id, c) => (e, .ok ⟨id, false, c.state⟩)
      | none => SsmDockerRuntimeAdapter.createContainer cli e ans req := by
  unfold SsmDockerRuntimeAdapter.ensureContainer DockerRuntimeAdapter.existingContainer
  rw [if_neg hname]
  dsimp only
  generalize (if stripOr req.existingContainerId ≠ "" then
    e.get (stripOr req.existingContainerId) else none) = byId
  cases byId with
  | some x => rfl
  | none => cases e.get req.name <;> rfl

/-- The limits of the two containers. -/
theorem quotas_same_iff (hpos : ∀ q, req.cpuLimit = some q → 0 < q) :
    DockerRuntimeAdapter.quotasOf req.cpuLimit req.memoryLimitBytes req.pidsLimit =
        { nanoCpus := req.cpuLimit.map fun q =>
            ((1000 * (SsmDockerRuntimeAdapter.roundHalfEven (q * 1000000)).toNat : Nat) : Int)
          memLimit := req.memoryLimitBytes
          pidsLimit := req.pidsLimit }
      ↔ ∀ q, req.cpuLimit = some q → 1000 ∣ (q * 1000000000).floor := by
  unfold DockerRuntimeAdapter.quotasOf
  rw [Quotas.mk.injEq]
  cases hcpu : req.cpuLimit with
  | none => simp
  | some q =>
      have hround : 0 ≤ SsmDockerRuntimeAdapter.roundHalfEven (q * 1000000) := by
        have hfloor : 0 ≤ (q * 1000000).floor := by
          rw [Rat.le_floor_iff]
          have := hpos q hcpu
          push_cast
          linarith
        unfold SsmDockerRuntimeAdapter.roundHalfEven
        split_ifs <;> omega
      have hcast : ((1000 * (SsmDockerRuntimeAdapter.roundHalfEven (q * 1000000)).toNat : Nat) : Int)
          = 1000 * SsmDockerRuntimeAdapter.roundHalfEven (q * 1000000) := by
        omega
      simp only [Option.map_some, Option.some.injEq, and_true, hcast]
      rw [floor_eq_rounded_iff]
      constructor
      · rintro h q' rfl
        exact h
      · exact fun h => h q rfl

/-- Everything that `docker create` reads of the flags of a request. -/
theorem read_createFlags {c₀ c : WorkspaceContainer} {project : BindMount} {extra : List BindMount}
    {ports : Table Int (Option Int)}
    (hcolon : ∀ b ∈ project :: extra, ':' ∉ b.hostPath.toList ∧ ':' ∉ b.containerPath.toList)
    (hports : ∀ p ∈ ports.entries, ∀ host, p.2 = some host → 0 < host)
    (hquotas : c₀.quotas = {}) (hsec : c₀.security = {})
    (h : cli.read c₀ (SsmDockerRuntimeAdapter.createFlags req project extra ports) = some c) :
    ∃ m, cli.read c₀ ((req.labels.entries.insertionSort fun a b => a.1 ≤ b.1).map
        fun e => .label (e.1 ++ "=" ++ e.2)) = some m ∧
      c = { m with
        env := m.env ++ (req.env.entries.insertionSort fun a b => a.1 ≤ b.1).map
          fun e => e.1 ++ "=" ++ e.2
        binds := m.binds ++ project :: extra
        ports := (ports.entries.insertionSort fun a b =>
          toString a.1 ++ "/tcp" ≤ toString b.1 ++ "/tcp").foldl (fun t e => t.insert e.1 e.2) m.ports
        quotas :=
          { nanoCpus := req.cpuLimit.map fun q =>
              ((1000 * (SsmDockerRuntimeAdapter.roundHalfEven (q * 1000000)).toNat : Nat) : Int)
            memLimit := req.memoryLimitBytes
            pidsLimit := req.pidsLimit }
        security := securityOf req.securitySpec } := by
  obtain ⟨m₅, h, hsecurity⟩ := read_append cli h
  have hassoc : ∀ a b d f x y z : List CreateFlag, a ++ b ++ d ++ f ++ x ++ y ++ z
      = a ++ b ++ d ++ f ++ (x ++ y ++ z) := fun a b d f x y z => by simp only [List.append_assoc]
  rw [hassoc] at h
  obtain ⟨m₄, h, hlimits⟩ := read_append cli h
  obtain ⟨m₃, h, hpublish⟩ := read_append cli h
  obtain ⟨m₂, h, hvolumes⟩ := read_append cli h
  obtain ⟨m, hlabels, henv⟩ := read_append cli h
  refine ⟨m, hlabels, ?_⟩
  obtain ⟨hmq, hms⟩ : m.quotas = {} ∧ m.security = {} := by
    rw [read_labels_rest cli hlabels]
    exact ⟨hquotas, hsec⟩
  have hm₂ := read_envs cli henv
  have hm₃ := read_volumes cli hcolon hvolumes
  have hm₄ := read_ports cli (fun p hp => hports p
    ((List.perm_insertionSort _ _).mem_iff.mp hp)) hpublish
  have hm₅ := read_limits cli (by rw [hm₄, hm₃, hm₂]; exact hmq) hlimits
  have hc := read_security cli (by rw [hm₅, hm₄, hm₃, hm₂]; exact hms) hsecurity
  rw [hc, hm₅, hm₄, hm₃, hm₂]

/-- **Parity**: where both adapters come back, without a command failing, they leave the same
containers with the same settings and say alike whether one is new exactly when they agree on
what is there and on what is asked for. -/
theorem adapters_agree_iff (cli : DockerCli) (e : DockerEngine) (id : String)
    (req : ContainerRequest) (hcolons : req.NoColons) {e₁ e₂ : DockerEngine}
    {r₁ r₂ : RuntimeEnsureResult}
    (h₁ : DockerRuntimeAdapter.ensureContainer e { createId := .ok id } req = (e₁, .ok r₁))
    (h₂ : SsmDockerRuntimeAdapter.ensureContainer cli e { createId := .ok id } req
      = (e₂, .ok r₂)) :
    (SameRuntimes e₁ e₂ ∧ r₁.createdNew = r₂.createdNew) ↔ AdaptersAgree e req := by
  have hname : strip req.name ≠ "" := by
    intro hempty
    unfold DockerRuntimeAdapter.ensureContainer at h₁
    rw [if_pos hempty] at h₁
    cases h₁
  rw [ssm_existing hname] at h₂
  unfold DockerRuntimeAdapter.ensureContainer at h₁
  rw [if_neg hname] at h₁
  unfold AdaptersAgree
  cases hexisting : DockerRuntimeAdapter.existingContainer e req with
  | some x =>
      obtain ⟨i, c⟩ := x
      rw [hexisting] at h₁ h₂
      dsimp only at h₁ h₂ ⊢
      obtain ⟨rfl, hr₂⟩ := Prod.mk.inj h₂
      obtain rfl := Except.ok.inj hr₂
      unfold DockerRuntimeAdapter.mountsFit
      cases hreq : DockerRuntimeAdapter.requestedBindSignatures req.workspaceHostPath
          req.extraBindMounts with
      | error m =>
          rw [hreq] at h₁
          cases h₁
      | ok requested =>
          rw [hreq] at h₁
          dsimp only at h₁ ⊢
          cases hdiff : DockerRuntimeAdapter.bindsDiffer requested c with
          | false =>
              rw [hdiff, if_neg Bool.false_ne_true] at h₁
              obtain ⟨rfl, hr₁⟩ := Prod.mk.inj h₁
              obtain rfl := Except.ok.inj hr₁
              exact iff_of_true ⟨SameRuntimes.refl _, rfl⟩ rfl
          | true =>
              -- the API adapter replaces the container
              rw [hdiff, if_pos rfl] at h₁
              obtain ⟨_, _, _, _, _, _, _, _, _, rfl, _⟩ :=
                DockerRuntimeAdapter.createContainer_eq h₁
              exact iff_of_false (fun h => by cases h.2) Bool.false_ne_true
  | none =>
      rw [hexisting] at h₁ h₂
      dsimp only at h₁ h₂ ⊢
      obtain ⟨project, ports, extra, _, hproject, hcpu, hports, hextra, hid, rfl, hcreate₁⟩ :=
        DockerRuntimeAdapter.createContainer_eq h₁
      obtain ⟨project', ports', extra', _, c, hproject', hports', hextra', hid', rfl, hread,
        hcreate₂⟩ := SsmDockerRuntimeAdapter.createContainer_eq h₂
      obtain rfl := Except.ok.inj hid
      obtain rfl := Except.ok.inj hid'
      obtain ⟨rfl, hchosen⟩ := resolve_same hproject hproject'
      obtain rfl := Except.ok.inj (hports.symm.trans hports')
      obtain rfl := Except.ok.inj (hextra.symm.trans hextra')
      rw [sameRuntimes_create hcreate₁ hcreate₂]
      obtain ⟨m, hlabels, hc⟩ := read_createFlags (fun b hb => by
          rcases List.mem_cons.mp hb with rfl | hb
          · have hpath : ':' ∉ DockerRuntimeAdapter.workspaceProjectContainerPath.toList := by decide
            exact ⟨chosenHostPath_colon hcolons hchosen, hpath⟩
          · exact extraBinds_colon hcolons.extra hextra b hb)
        (portBindingsFromSpec_pos hports) rfl rfl hread
      have hrest := read_labels_rest cli hlabels
      constructor
      · rintro ⟨hsame, -⟩
        refine ⟨?_, fun k hk hmem => ?_⟩
        · rw [← quotas_same_iff hcpu]
          exact hsame.quotas.trans (by rw [hc])
        · have hlookup := hsame.labels k
          rw [hc] at hlookup
          change req.labels.lookup k = m.labels.lookup k at hlookup
          rw [read_labels_lookup cli hmem hlabels] at hlookup
          have hsome := AList.lookup_isSome.mpr hk
          rw [hlookup] at hsome
          cases hsome
      · rintro ⟨hdecimals, hkeys⟩
        have hm := read_labels cli (fun e he => hkeys e.1 (AList.mem_keys.mpr
          (List.mem_map_of_mem ((List.perm_insertionSort _ _).mem_iff.mp he)))) hlabels
        refine ⟨⟨?_, ?_, fun k => ?_, ?_, fun p => ?_, ?_, ?_⟩, rfl⟩
        · rw [hc, hrest]
        · rw [hc, hrest]
          exact .refl _
        · rw [hc, hm]
          exact (lookup_sorted req.labels k).symm
        · rw [hc, hrest]
          exact ((List.perm_insertionSort _ _).map _).symm
        · rw [hc, hrest]
          exact (lookup_sorted ports p).symm
        · rw [hc]
          exact (quotas_same_iff hcpu).mpr hdecimals
        · rw [hc]

/-! ### What a bring-up asks for -/

theorem bringUpLabels_no_equals (wid : Nat) (requestedConfigVersion : Option Int) :
    ∀ k ∈ bringUpLabels wid requestedConfigVersion, '=' ∉ k.toList := by
  intro k hk
  have hkey : k = configVersionLabel ∨ k = "devnest.managed_by" ∨ k = "devnest.workspace_id" := by
    unfold bringUpLabels at hk
    cases requestedConfigVersion with
    | none =>
        simp only [AList.mem_insert, AList.notMem_empty, or_false] at hk
        exact .inr hk
    | some v =>
        simp only [AList.mem_insert, AList.notMem_empty, or_false] at hk
        exact hk
  rcases hkey with rfl | rfl | rfl <;> decide

/-- The request of a bring-up is read alike by both adapters, but for the digits of its CPU limit
and the mounts of a container that is there. -/
theorem containerRequest_agrees_iff {env : OrchestratorEnv} {req : BringUpRequest}
    {limits : RuntimeLimits} {hostPath : String} {mounts : List BindMount}
    {vars : Table String String} :
    AdaptersAgree e (containerRequest env req limits hostPath mounts vars) ↔
      match e.get (sanitizeContainerName (toString req.wid)) with
      | some (_, c) => DockerRuntimeAdapter.mountsFit (some hostPath) mounts c = true
      | none => 1000 ∣ (limits.cpuLimitCores * 1000000000).floor := by
  have hexisting : DockerRuntimeAdapter.existingContainer e
      (containerRequest env req limits hostPath mounts vars) =
        e.get (sanitizeContainerName (toString req.wid)) := rfl
  unfold AdaptersAgree
  rw [hexisting]
  cases e.get (sanitizeContainerName (toString req.wid)) with
  | some x => exact Iff.rfl
  | none =>
      have hlabels := bringUpLabels_no_equals req.wid req.requestedConfigVersion
      constructor
      · exact fun h => h.1 limits.cpuLimitCores rfl
      · refine fun hdigits => ⟨fun q hq => ?_, hlabels⟩
        rw [← Option.some.inj hq]
        exact hdigits

end Agreement

/-! ## A command line -/

/-- A text up to the first occurrence of a character, and what follows it. -/
def cutAt (c : Char) (text : String) : String × String :=
  (String.ofList (text.toList.takeWhile (· ≠ c)),
    String.ofList ((text.toList.dropWhile (· ≠ c)).drop 1))

theorem cutAt_append {c : Char} {a : String} (h : c ∉ a.toList) (sep b : String)
    (hsep : sep.toList = [c]) : cutAt c (a ++ sep ++ b) = (a, b) := by
  have hne : ∀ d ∈ a.toList, decide (d ≠ c) = true := fun d hd =>
    decide_eq_true fun hdc => h (hdc ▸ hd)
  unfold cutAt
  rw [String.toList_append, String.toList_append, hsep, List.append_assoc,
    List.takeWhile_append_of_pos hne, List.dropWhile_append_of_pos hne]
  simp

theorem colon_not_mem_toString (n : Int) : ':' ∉ (toString n).toList := by
  intro hmem
  cases n with
  | ofNat n =>
      have hdigit := toString_digits n ':' hmem
      exact absurd hdigit (by decide)
  | negSucc n =>
      have htext : (toString (Int.negSucc n)).toList = '-' :: (toString (n + 1)).toList := by
        show ("-" ++ toString (n + 1)).toList = _
        rw [String.toList_append]
        rfl
      rw [htext] at hmem
      rcases List.mem_cons.mp hmem with hdash | hmem
      · exact absurd hdash (by decide)
      · exact absurd (toString_digits (n + 1) ':' hmem) (by decide)

/-- `docker create`, on the texts that the adapter writes. -/
def dockerCli : DockerCli where
  label t := some (cutAt '=' t)
  env t := some t
  volume t :=
    let mode := (cutAt ':' (cutAt ':' t).2).2
    if mode = "ro" ∨ mode = "rw" then
      some ⟨(cutAt ':' t).1, (cutAt ':' (cutAt ':' t).2).1, mode = "ro"⟩
    else none
  publish t :=
    (parseInt (cutAt ':' t).1).bind fun host => (parseInt (cutAt ':' t).2).map fun container =>
      (container, if host = 0 then none else some host)
  cpus t := (decimalNanos t).map fun n => (n : Int)
  memory := parseInt
  pidsLimit := parseInt
  tmpfs t := some (cutAt ':' t)
  label_cut := by
    intro key value p hkey h
    rw [cutAt_append hkey "=" value rfl] at h
    exact (Option.some.inj h).symm
  env_kept := by
    intro key value text h
    exact (Option.some.inj h).symm
  volume_parts := by
    intro b b' hhost hdest h
    have hassoc : bindText b = b.hostPath ++ ":" ++ (b.containerPath ++ ":" ++
        if b.readOnly then "ro" else "rw") := by
      simp only [bindText, String.append_assoc]
    simp only [hassoc, cutAt_append hhost ":" _ rfl, cutAt_append hdest ":" _ rfl] at h
    obtain ⟨host, dest, readOnly⟩ := b
    cases readOnly <;> simpa using h.symm
  publish_pair := by
    intro host container p h
    rw [cutAt_append (colon_not_mem_toString host) ":" _ rfl, parseInt_toString,
      parseInt_toString] at h
    exact (Option.some.inj h).symm
  cpus_decimal := by
    intro text n c hn h
    rw [hn] at h
    exact (Option.some.inj h).symm
  memory_bytes := by
    intro n m h
    rw [parseInt_toString] at h
    exact (Option.some.inj h).symm
  pidsLimit_count := by
    intro n m h
    rw [parseInt_toString] at h
    exact (Option.some.inj h).symm
  tmpfs_cut := by
    intro path options p hpath h
    rw [cutAt_append hpath ":" options rfl] at h
    exact (Option.some.inj h).symm

/-- What is asked for workspace 1. -/
def sampleRequest : ContainerRequest where
  name := "devnest-ws-1"
  cpuLimit := some (3 / 2)
  memoryLimitBytes := some 1073741824
  pidsLimit := some 512
  env := (∅ : Table String String).insert "CODE_SERVER_AUTH" "none"
  ports := [(0, 8080)]
  labels := (∅ : Table String String).insert "devnest.workspace_id" "1"
  workspaceHostPath := some "/srv/workspaces/1"

/-- On an empty engine. -/
theorem new_container_agrees :
    SameRuntimes
      (DockerRuntimeAdapter.ensureContainer .empty { createId := .ok "c1" } sampleRequest).1
      (SsmDockerRuntimeAdapter.ensureContainer dockerCli .empty { createId := .ok "c1" }
        sampleRequest).1 := by
  have h₁ : (DockerRuntimeAdapter.ensureContainer .empty { createId := .ok "c1" } sampleRequest).2
      = .ok ⟨"c1", true, .created⟩ := by decide +kernel
  have h₂ : (SsmDockerRuntimeAdapter.ensureContainer dockerCli .empty { createId := .ok "c1" }
      sampleRequest).2 = .ok ⟨"c1", true, .created⟩ := by decide +kernel
  refine ((adapters_agree_iff dockerCli .empty "c1" sampleRequest
    ⟨fun m hm => (by cases hm), fun p hp => ?_, fun b hb => (by cases hb)⟩ (Prod.ext rfl h₁)
    (Prod.ext rfl h₂)).mpr ?_).1
  · obtain rfl := Option.some.inj hp
    decide
  · refine ⟨fun q hq => ?_, by decide +kernel⟩
    obtain rfl := Option.some.inj hq
    decide +kernel

/-- The container of workspace 1, made with other mounts. -/
def staleEngine : DockerEngine where
  containers := (∅ : Table String WorkspaceContainer).insert "c1"
    { name := "devnest-ws-1", binds := [⟨"/old/1", "/home/coder/project", false⟩] }
  id_trimmed := by
    intro i c h
    rw [Table.lookup_insert_eq] at h
    split at h
    · rename_i heq
      subst heq
      decide
    · rw [AList.lookup_empty] at h
      cases h
  name_unique := by
    intro i j c d hi hj _
    rw [Table.lookup_insert_eq] at hi hj
    split at hi <;> split at hj
    · rename_i h1 h2
      exact h1.trans h2.symm
    · rw [AList.lookup_empty] at hj
      cases hj
    · rw [AList.lookup_empty] at hi
      cases hi
    · rw [AList.lookup_empty] at hi
      cases hi

/-- The API adapter replaces it, the remote one goes on with it. -/
theorem stale_mounts_disagree :
    (DockerRuntimeAdapter.ensureContainer staleEngine { createId := .ok "c2" } sampleRequest).2
        = .ok ⟨"c2", true, .created⟩ ∧
    (SsmDockerRuntimeAdapter.ensureContainer dockerCli staleEngine { createId := .ok "c2" }
        sampleRequest).2 = .ok ⟨"c1", false, .created⟩ ∧
    ¬ SameRuntimes
      (DockerRuntimeAdapter.ensureContainer staleEngine { createId := .ok "c2" } sampleRequest).1
      (SsmDockerRuntimeAdapter.ensureContainer dockerCli staleEngine { createId := .ok "c2" }
        sampleRequest).1 := by
  refine ⟨by decide +kernel, by decide +kernel, fun h => ?_⟩
  have hc1 := h "c1"
  have hgone : (DockerRuntimeAdapter.ensureContainer staleEngine { createId := .ok "c2" }
      sampleRequest).1.containers.lookup "c1" = none := by
    rw [← Option.isNone_iff_eq_none]
    decide +kernel
  have hkept : ((SsmDockerRuntimeAdapter.ensureContainer dockerCli staleEngine
      { createId := .ok "c2" } sampleRequest).1.containers.lookup "c1").isSome = true := by
    decide +kernel
  rw [hgone] at hc1
  generalize (SsmDockerRuntimeAdapter.ensureContainer dockerCli staleEngine
    { createId := .ok "c2" } sampleRequest).1.containers.lookup "c1" = found at hc1 hkept
  cases hc1
  cases hkept

end Devnest
