import Devnest.PyText
import Devnest.Shell

/-!
# Remote commands

The two runners that execute an argument vector on a node: one through
OpenSSH, one through an SSM shell script. Both hand a text to a shell on the
remote side. The SSM runner quotes the words (`shlex.join`); the SSH runner
passes them to `ssh`, which joins them with single blanks and quotes nothing.

`Shell.commands` says what the remote shell makes of the text. The words
arrive as they were exactly for the vectors of `remote_argv_iff`.
-/

namespace Devnest

/-! ## SSH -/

structure SshRemoteCommandRunner where
  ssh_user : String
  ssh_host : String
  ssh_port : Int
  deriving DecidableEq, Repr

namespace SshRemoteCommandRunner

/-- `__init__`. -/
def init (sshUser sshHost : Option String) (sshPort : Int) : SshRemoteCommandRunner where
  ssh_user := PyText.stripOr sshUser
  ssh_host := PyText.stripOr sshHost
  ssh_port := sshPort

def remote (r : SshRemoteCommandRunner) : String := r.ssh_user ++ "@" ++ r.ssh_host

def sshPrefixArgv (r : SshRemoteCommandRunner) (remoteUserHost : String) : List String :=
  ["ssh", "-o", "BatchMode=yes", "-o", "ConnectTimeout=15", "-o",
    "StrictHostKeyChecking=accept-new", "-p", toString r.ssh_port, remoteUserHost, "--"]

/-- The local process `run` starts. -/
def run (r : SshRemoteCommandRunner) (cmd : List String) : Except String (List String) :=
  if cmd = [] then .error "cmd must be a non-empty list of strings"
  else .ok (r.sshPrefixArgv r.remote ++ cmd)

/-- The local process `popen_for_remote_command` starts. -/
def popenForRemoteCommand (r : SshRemoteCommandRunner) (remoteArgv : List String) :
    Except String (List String) :=
  if remoteArgv = [] then .error "remote_argv must be a non-empty list of strings"
  else .ok (r.sshPrefixArgv r.remote ++ remoteArgv)

end SshRemoteCommandRunner

/-- The text `ssh` sends: its arguments after the host, joined with blanks. The
`--` after the host ends its options and is not sent. -/
def sshCommandText (argv : List String) : String :=
  PyText.join " " ((argv.dropWhile (· ≠ "--")).drop 1)

/-- The argument vectors a shell text runs. -/
def shellCommands (text : String) : Option (List (List String)) :=
  (Shell.commands text.toList).map fun cmds => cmds.map fun argv => argv.map String.ofList

/-- The local `ssh` process starts the argument vector on the remote host. -/
def SshStarts (started : Except String (List String)) (cmd : List String) : Prop :=
  ∃ argv, started = .ok argv ∧ shellCommands (sshCommandText argv) = some [cmd]

/-! ## SSM -/

/-- `shlex.join`. -/
def shlexJoin (cmd : List String) : String :=
  String.ofList (Shell.shlexJoin (cmd.map String.toList))

/-- The script `SsmRemoteCommandRunner.run` sends. -/
def ssmScript (cmd : List String) : Except String String :=
  if cmd = [] then .error "cmd must be a non-empty list of strings"
  else .ok ("set -euo pipefail && " ++ shlexJoin cmd)

/-- The script sets the shell's options and then starts the argument vector. -/
def SsmStarts (script : Except String String) (cmd : List String) : Prop :=
  ∃ text, script = .ok text ∧ shellCommands text = some [["set", "-euo", "pipefail"], cmd]

/-! ## What arrives -/

/-- The word may stand first in a command line as it is written: it is no
reserved word and no assignment. -/
def IsCommandName (w : String) : Prop := Shell.NamesCommand (Shell.Word.bare w.toList)

instance (w : String) : Decidable (IsCommandName w) := by
  unfold IsCommandName
  infer_instance

/-- Nothing in the words means anything to a shell. -/
def NeedsNoQuoting (cmd : List String) : Prop :=
  (∀ w ∈ cmd, Shell.IsLiteral w.toList) ∧ ∀ w ∈ cmd.head?, IsCommandName w

instance (cmd : List String) : Decidable (NeedsNoQuoting cmd) := by
  unfold NeedsNoQuoting
  infer_instance

/-- The first word is a command name, or it has a character that `shlex`
quotes. -/
def QuotedIsEnough (cmd : List String) : Prop :=
  ∀ w ∈ cmd.head?, Shell.IsSafe w.toList → IsCommandName w

instance (cmd : List String) : Decidable (QuotedIsEnough cmd) := by
  unfold QuotedIsEnough
  infer_instance

theorem shellCommands_eq_some {text : String} {cmds : List (List String)} :
    shellCommands text = some cmds
      ↔ Shell.commands text.toList = some (cmds.map fun argv => argv.map String.toList) := by
  unfold shellCommands
  constructor
  · intro h
    obtain ⟨argvs, hargvs, rfl⟩ := Option.map_eq_some_iff.mp h
    rw [hargvs]
    simp [Function.comp_def]
  · intro h
    rw [h]
    simp [Function.comp_def]

theorem port_ne_dashes (port : Int) : toString port ≠ "--" := by
  intro h
  have hl := congrArg String.toList h
  cases port with
  | ofNat n =>
      have hn : (toString n).toList = ['-', '-'] := hl
      exact PyText.dash_not_mem_toString n (hn ▸ List.mem_cons_self ..)
  | negSucc n =>
      have hn : ("-" ++ toString (n + 1)).toList = ['-', '-'] := hl
      have hd : (toString (n + 1)).toList = ['-'] := by
        rw [String.toList_append] at hn
        simpa using hn
      exact PyText.dash_not_mem_toString (n + 1) (hd ▸ List.mem_cons_self ..)

theorem remote_ne_dashes (r : SshRemoteCommandRunner) : r.remote ≠ "--" := by
  intro h
  have hat : '@' ∈ r.remote.toList := by
    simp [SshRemoteCommandRunner.remote]
  rw [h] at hat
  revert hat
  decide

/-- What reaches the remote shell is the command, joined with blanks. -/
theorem sshCommandText_prefix (r : SshRemoteCommandRunner) (cmd : List String) :
    sshCommandText (r.sshPrefixArgv r.remote ++ cmd) = PyText.join " " cmd := by
  have hport := port_ne_dashes r.ssh_port
  have hremote := remote_ne_dashes r
  have hdrop : (r.sshPrefixArgv r.remote ++ cmd).dropWhile (· ≠ "--") = "--" :: cmd := by
    rw [SshRemoteCommandRunner.sshPrefixArgv]
    generalize toString r.ssh_port = port at hport
    generalize r.remote = remote at hremote
    simp [hport, hremote]
  rw [sshCommandText, hdrop]
  rfl

theorem join_toList (cmd : List String) :
    (PyText.join " " cmd).toList = [' '].intercalate (cmd.map String.toList) := by
  rw [PyText.join, String.toList_intercalate]
  rfl

theorem needsNoQuoting_cons {w : String} {ws : List String} :
    NeedsNoQuoting (w :: ws) ↔ (∀ l ∈ (w :: ws).map String.toList, Shell.IsLiteral l)
      ∧ Shell.NamesCommand (Shell.Word.bare w.toList) := by
  simp [NeedsNoQuoting, IsCommandName]

/-- The text of the SSH runner gives the command back exactly when nothing in
it needs quoting. -/
theorem joined_starts_iff {cmd : List String} (h : cmd ≠ []) :
    shellCommands (PyText.join " " cmd) = some [cmd] ↔ NeedsNoQuoting cmd := by
  obtain ⟨w, ws, rfl⟩ := List.exists_cons_of_ne_nil h
  rw [shellCommands_eq_some, join_toList, needsNoQuoting_cons]
  exact Shell.commands_intercalate_iff

theorem sshStarts_iff {r : SshRemoteCommandRunner} {cmd : List String} (h : cmd ≠ []) :
    SshStarts (.ok (r.sshPrefixArgv r.remote ++ cmd)) cmd ↔ NeedsNoQuoting cmd := by
  rw [← joined_starts_iff h, ← sshCommandText_prefix r cmd]
  constructor
  · rintro ⟨argv, hargv, hcmd⟩
    cases hargv
    exact hcmd
  · intro hcmd
    exact ⟨_, rfl, hcmd⟩

/-- The words of `set -euo pipefail`. -/
def setWords : List Shell.Word :=
  ["set", "-euo", "pipefail"].map fun w => Shell.Word.bare w.toList

theorem commands_ssm {w : List Char} {ws : List (List Char)} :
    Shell.commands ("set -euo pipefail && ".toList ++ Shell.shlexJoin (w :: ws))
      = (Shell.simpleCommand ((w :: ws).map Shell.quotedWord)).map fun argv =>
          [["set", "-euo", "pipefail"].map String.toList, argv] := by
  have hset : Shell.Lexer.start.feed "set -euo pipefail && ".toList
      = some ⟨.plain, none, setWords.map .word ++ [.andIf]⟩ := by
    decide
  have hfeed := Shell.feed_intercalate (setWords.map .word ++ [.andIf])
    ((w :: ws).map fun l => (Shell.shlexQuote l, Shell.quotedWord l)) (by simp) (by
      intro p hp
      obtain ⟨l, -, rfl⟩ := List.mem_map.mp hp
      exact Shell.readsAs_shlexQuote l)
  have hlex : Shell.lex ("set -euo pipefail && ".toList ++ Shell.shlexJoin (w :: ws))
      = some (setWords.map .word ++ .andIf :: ((w :: ws).map Shell.quotedWord).map .word) := by
    rw [Shell.lex, Shell.Lexer.feed_append, hset, Option.bind_some, Shell.shlexJoin]
    simpa [Function.comp_def] using hfeed
  have hsimple : Shell.simpleCommand setWords
      = some (["set", "-euo", "pipefail"].map String.toList) := by
    decide
  rw [Shell.commands, hlex, Option.bind_some, Shell.splitAnd_words_andIf]
  simp only [List.mapM_cons, List.mapM_nil, hsimple]
  cases Shell.simpleCommand ((w :: ws).map Shell.quotedWord) <;> rfl

theorem ssmStarts_iff {cmd : List String} (h : cmd ≠ []) :
    SsmStarts (ssmScript cmd) cmd ↔ QuotedIsEnough cmd := by
  obtain ⟨w, ws, rfl⟩ := List.exists_cons_of_ne_nil h
  have htext : ("set -euo pipefail && " ++ shlexJoin (w :: ws)).toList
      = "set -euo pipefail && ".toList
        ++ Shell.shlexJoin (w.toList :: ws.map String.toList) := by
    rw [String.toList_append, shlexJoin, List.map_cons]
    exact congrArg _ String.toList_ofList
  have hstarts : SsmStarts (ssmScript (w :: ws)) (w :: ws)
      ↔ Shell.simpleCommand ((w.toList :: ws.map String.toList).map Shell.quotedWord)
        = some (w.toList :: ws.map String.toList) := by
    simp only [SsmStarts, ssmScript, if_neg h, Except.ok.injEq, exists_eq_left',
      shellCommands_eq_some, htext, commands_ssm, Option.map_eq_some_iff]
    simp
  rw [hstarts, Shell.simpleCommand_quoted_iff]
  simp [QuotedIsEnough, IsCommandName]

/-- A command arrives as it was asked for exactly when nothing in it needs
quoting, over SSH, and when its first word is a command name as it is written
or is quoted, over SSM. -/
theorem remote_argv_iff (r : SshRemoteCommandRunner) {cmd : List String} (h : cmd ≠ []) :
    (SshStarts (r.run cmd) cmd ↔ NeedsNoQuoting cmd)
      ∧ (SshStarts (r.popenForRemoteCommand cmd) cmd ↔ NeedsNoQuoting cmd)
      ∧ (SsmStarts (ssmScript cmd) cmd ↔ QuotedIsEnough cmd) := by
  refine ⟨?_, ?_, ssmStarts_iff h⟩
  · rw [SshRemoteCommandRunner.run, if_neg h]
    exact sshStarts_iff h
  · rw [SshRemoteCommandRunner.popenForRemoteCommand, if_neg h]
    exact sshStarts_iff h

/-- The runner of a node reached as `ubuntu@10.0.0.5`. -/
def sampleRunner : SshRemoteCommandRunner := .init (some "ubuntu") (some "10.0.0.5") 22

/-- A `mkdir` with a plain path arrives over both. -/
theorem mkdir_arrives :
    SshStarts (sampleRunner.run ["mkdir", "-p", "/srv/ws/7"]) ["mkdir", "-p", "/srv/ws/7"]
      ∧ SsmStarts (ssmScript ["mkdir", "-p", "/srv/ws/7"]) ["mkdir", "-p", "/srv/ws/7"] := by
  have hiff := remote_argv_iff sampleRunner (List.cons_ne_nil "mkdir" ["-p", "/srv/ws/7"])
  exact ⟨hiff.1.mpr (by decide), hiff.2.2.mpr (by decide)⟩

/-- The directory probe of `ssh_remote_ensure_workspace_project_dir` passes a
script as one argument of `sh -lc`. The remote shell splits it: the script is
the word `test` alone. Over SSM an assignment in front is taken off. -/
theorem ssh_splits_script :
    ¬ SshStarts (sampleRunner.run ["sh", "-lc", "test -d /srv/ws/7"])
        ["sh", "-lc", "test -d /srv/ws/7"]
      ∧ SshStarts (sampleRunner.run ["sh", "-lc", "test -d /srv/ws/7"])
        ["sh", "-lc", "test", "-d", "/srv/ws/7"]
      ∧ ¬ SsmStarts (ssmScript ["LANG=C", "ls"]) ["LANG=C", "ls"] := by
  refine ⟨?_, ⟨_, rfl, by decide⟩, ?_⟩
  · rintro ⟨argv, hargv, hcmd⟩
    obtain rfl : _ = argv := Except.ok.inj hargv
    revert hcmd
    decide
  · rintro ⟨text, htext, hcmd⟩
    obtain rfl : _ = text := Except.ok.inj htext
    revert hcmd
    decide

end Devnest
