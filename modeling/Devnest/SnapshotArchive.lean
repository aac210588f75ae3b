import Devnest.PosixTrees
import Mathlib.Data.List.Lex
import Mathlib.Data.List.Sort
import Mathlib.Data.String.Basic

/-!
# Snapshot archives

A snapshot is a tar archive of a project directory, a list of members with
names relative to it. The export is a walk of the worker (regular files, and
links that lead to one) or `tar` in the workspace's container (everything, the
directory itself as `.`). The import checks every member against the directory
as it stands, extracts the members in order into a new directory beside it and
swaps the two.

Extraction is that of Python 3.11 without a filter: parents are made where the
path does not exist, files are opened through whatever links are there by then,
and a link that cannot be made is replaced by the member it names.
-/

namespace Devnest

open Posix

/-! ## Members -/

/-- The kind of a member: `special` is a device or a FIFO, and any unknown kind counts as a
regular file. -/
inductive MemberType where
  | reg (data : String)
  | dir
  | sym (linkname : String)
  | lnk (linkname : String)
  | special
  deriving DecidableEq, Repr

structure TarMember where
  name : String
  type : MemberType
  deriving DecidableEq, Repr

/-- `gettarinfo` of an entry. -/
def tarMember (name : String) : Node → TarMember
  | .dir => ⟨name, .dir⟩
  | .file data => ⟨name, .reg data⟩
  | .link target => ⟨name, .sym target⟩

/-! ## Export -/

/-- `Path.is_file`, links followed. -/
def isFile (fs : Fs) (p : Path) : Bool :=
  (walk true fs maxLinks [] p).any fun q =>
    match fs.lookup q with
    | some (.file _) => true
    | _ => false

/-- All paths below a directory, relative to it. -/
def pathsBelow (fs : Fs) (root : Path) : List Path :=
  (fs.keys.filter fun q => root.isPrefixOf q && q != root).map fun q => q.drop root.length

inductive ExportMode where
  | localWalk | containerTar
  deriving DecidableEq, Repr

/-- The path a member is stored under: `relative_to(root)`, or below `.`. -/
def storedName (mode : ExportMode) (p : Path) : String :=
  match mode with
  | .localWalk => PyText.join "/" p
  | .containerTar => PyText.join "/" ("." :: p)

/-- `sorted(root.rglob("*"))`, files only. -/
def localWalkPaths (fs : Fs) (root : Path) : List Path :=
  ((pathsBelow fs root).insertionSort (· ≤ ·)).filter fun p => isFile fs (root ++ p)

def exportedPaths (mode : ExportMode) (fs : Fs) (root : Path) : List Path :=
  match mode with
  | .localWalk => localWalkPaths fs root
  | .containerTar => [] :: pathsBelow fs root

def nodeBelow (fs : Fs) (root p : Path) : Option Node :=
  if p = [] then some .dir else fs.lookup (root ++ p)

def exportedMembers (mode : ExportMode) (fs : Fs) (root : Path) : List TarMember :=
  (exportedPaths mode fs root).filterMap fun p =>
    (nodeBelow fs root p).map (tarMember (storedName mode p))

/-- `export_workspace_filesystem_snapshot`: `tar` takes a directory's entries in any order. -/
inductive Exports (fs : Fs) (root : Path) : ExportMode → List TarMember → Prop where
  | localWalk : Exports fs root .localWalk (exportedMembers .localWalk fs root)
  | containerTar {ms : List TarMember} (h : ms.Perm (exportedMembers .containerTar fs root)) :
      Exports fs root .containerTar ms

/-! ## Validation -/

/-- Why an import ends without success: an issue, or another exception, which passes through. -/
inductive ImportFault where
  | issue (text : String)
  | raised
  deriving DecidableEq, Repr

/-- A path below `base`, unless it is absolute. -/
def below (base : Path) (name : String) : List String :=
  if PyText.startsWith name "/" then components name else base ++ components name

def validateTarMember (fs : Fs) (dest : Path) (m : TarMember) : Except ImportFault Unit :=
  let name := PyText.strip m.name
  if name = "" ∨ PyText.startsWith name "/" = true ∨ PyText.startsWith name ".." = true then
    .error (.issue ("snapshot:import:unsafe_path:" ++ PyText.repr name))
  else if m.type = .special then
    .error (.issue ("snapshot:import:unsafe_member_type:" ++ PyText.repr name))
  else
    match realpath fs (below dest name) with
    | none => .error .raised
    | some target =>
        if !dest.isPrefixOf target then
          .error (.issue ("snapshot:import:unsafe_path:" ++ PyText.repr name))
        else
          match m.type with
          | .lnk linkname =>
              match realpath fs (below dest linkname) with
              | none => .error .raised
              | some target =>
                  if dest.isPrefixOf target then .ok ()
                  else .error (.issue ("snapshot:import:unsafe_hardlink:" ++ PyText.repr name))
          | _ => .ok ()

/-- `_validate_tar_members`. -/
def validateTarMembers (fs : Fs) (dest : Path) (ms : List TarMember) : Except ImportFault Unit :=
  ms.forM (validateTarMember fs dest)

/-! ## Extraction -/

/-- `OSError`, `ExtractError`, `KeyError`, and the recursion limit. -/
inductive TarFault where
  | os | extract | key | recursion
  deriving DecidableEq, Repr

/-- The names of a path, of which empty ones do not count. -/
def pathNames (s : String) : List String := (components s).filter (· != "")

/-- The names of `os.path.normpath`, and the slashes in front. -/
def normpath (s : String) : Nat × List String :=
  let slashes :=
    if !PyText.startsWith s "/" then 0
    else if PyText.startsWith s "//" && !PyText.startsWith s "///" then 2 else 1
  (slashes, (pathNames s).foldl (fun comps comp =>
    if comp = "." then comps
    else if comp != ".." || (slashes == 0 && comps.isEmpty) || comps.getLast? == some ".." then
      comps ++ [comp]
    else comps.dropLast) [])

/-- `_getmember` with `normalize`: the last of the members with the name. -/
def getmember (ms : List TarMember) (name : String) : Option Nat :=
  ((List.range ms.length).filter fun i =>
    (ms[i]?).any fun m => normpath m.name == normpath name).getLast?

/-- `os.path.dirname` of a relative name. -/
def dirname (s : String) : String := PyText.join "/" (components s).dropLast

/-- `_find_link_target`: a symbolic link may name any member, a hard link only one before it. -/
def findLinkTarget (ms : List TarMember) (i : Nat) (m : TarMember) : Option Nat :=
  match m.type with
  | .sym linkname =>
      getmember ms (PyText.join "/" ([dirname m.name, linkname].filter (· != "")))
  | .lnk linkname => getmember (ms.take i) linkname
  | _ => none

/-- The directory above, made unless it exists. -/
def makeUpper (tmp : Path) (names : List String) (d : Disk) : Disk × Option Errno :=
  if pathExists tmp names.dropLast d then (d, none) else makedirs tmp names.dropLast.reverse d

/-- `makedir`: one that is there already is fine. -/
def makedir (tmp : Path) (names : List String) (d : Disk) : Disk × Option Errno :=
  match mkdir tmp names d with
  | (d, some .exist) => (d, none)
  | r => r

/-- `os.symlink` after what was there is unlinked. -/
def makeSymlink (tmp : Path) (names : List String) (linkname : String) (d : Disk) :
    Disk × Option Errno :=
  if entryExists tmp names d then
    match unlink tmp names d with
    | (d, none) => symlink tmp names d linkname
    | r => r
  else symlink tmp names d linkname

def osError : Disk × Option Errno → Disk × Option TarFault
  | (d, none) => (d, none)
  | (d, some _) => (d, some .os)

/-- Where a hard link's source path starts. -/
def sourceBase (tmp : Path) (linkname : String) : Path :=
  if PyText.startsWith linkname "/" then [] else tmp

/-- `_extract_member` of the member at index `i` to a path in `tmp`, after `extract` was called for
the members up to `cur`: only these have `_link_target` set. The recursion is that of
`makelink`, which extracts the named member when a link cannot be made. -/
def extractMember (ms : List TarMember) (tmp : Path) (cur : Nat) :
    Nat → Nat → List String → Disk → Disk × Option TarFault
  | 0, _, _, d => (d, some .recursion)
  | depth + 1, i, names, d =>
      match ms[i]? with
      | none => (d, some .key)
      | some m =>
          let named (d : Disk) : Disk × Option TarFault :=
            match findLinkTarget ms i m with
            | none => (d, some .key)
            | some j => extractMember ms tmp cur depth j names d
          -- the handler for a link that cannot be made, in which a `KeyError` is an `ExtractError`
          let fallback (d : Disk) : Disk × Option TarFault :=
            match named d with
            | (d, some .key) => (d, some .extract)
            | r => r
          match makeUpper tmp names d with
          | (d, some _) => (d, some .os)
          | (d, none) =>
              match m.type with
              | .reg data => osError (openWrite tmp names d data)
              | .dir => osError (makedir tmp names d)
              -- never reached, since the validation refuses it
              | .special => (d, some .os)
              | .sym linkname =>
                  match makeSymlink tmp names linkname d with
                  | (d, none) => (d, none)
                  | (d, some _) => fallback d
              | .lnk linkname =>
                  if cur < i then fallback d
                  else if pathExists (sourceBase tmp linkname) (pathNames linkname) d then
                    match link tmp names d (sourceBase tmp linkname) (pathNames linkname) with
                    | (d, none) => (d, none)
                    | (d, some _) => fallback d
                  else
                    match named d with
                    | (d, some .os) => fallback d
                    | r => r

/-- `extractall` from the member `cur` on: an `ExtractError` is passed over. -/
def extractFrom (depth : Nat) (ms : List TarMember) (tmp : Path) :
    Nat → List TarMember → Disk → Disk × Option TarFault
  | _, [], d => (d, none)
  | cur, m :: rest, d =>
      match extractMember ms tmp cur (depth + 1) cur (pathNames m.name) d with
      | (d, none) | (d, some .extract) => extractFrom depth ms tmp (cur + 1) rest d
      | r => r

def extractall (depth : Nat) (ms : List TarMember) (tmp : Path) (d : Disk) :
    Disk × Option TarFault :=
  extractFrom depth ms tmp 0 ms d

/-! ## Import -/

def existsAt (fs : Fs) (p : Path) : Bool := pathExists [] p { fs }

/-- `shutil.rmtree` with `ignore_errors`: a file or a link stays. -/
def rmtree (p : Path) (fs : Fs) : Fs := if fs.lookup p = some .dir then removeTree p fs else fs

/-- The directory with `.bak` after its name. -/
def backupOf (dest : Path) : Path := dest.dropLast ++ [dest.getLast?.getD "" ++ ".bak"]

/-- After a failed swap the backup takes the place of a destination that is gone. -/
def rollback (dest : Path) (fs : Fs) : Fs :=
  if !existsAt fs dest && existsAt fs (backupOf dest) then
    (rename (backupOf dest) dest fs).getD fs
  else fs

/-- The extracted tree takes the destination's place, and whether it does. -/
def atomicSwap (dest tmp : Path) (fs : Fs) : Fs × Bool :=
  let fs := if existsAt fs (backupOf dest) then rmtree (backupOf dest) fs else fs
  match if existsAt fs dest then rename dest (backupOf dest) fs else some fs with
  | none => (rollback dest fs, false)
  | some fs =>
      match rename tmp dest fs with
      | none => (rollback dest fs, false)
      | some fs =>
          (if existsAt fs (backupOf dest) then rmtree (backupOf dest) fs else fs, true)

/-- The temporary directory is removed if it is still there. -/
def cleanup (tmp : Path) (d : Disk) : Disk :=
  if existsAt d.fs tmp then { d with fs := rmtree tmp d.fs } else d

/-- What the system answers: `mkdtemp`'s name, the text of an error, and how deep Python may
recurse. -/
structure ImportAnswers where
  tmpName : String
  error : String := ""
  depth : Nat := 100

def tmpDir (ans : ImportAnswers) (dest : Path) : Path := dest.dropLast ++ [ans.tmpName]

/-- `_safe_snapshot_tar_extract`. -/
def safeSnapshotTarExtract (ans : ImportAnswers) (dest : Path) (ms : List TarMember) (d : Disk) :
    Disk × Option ImportFault :=
  match validateTarMembers d.fs dest ms with
  | .error fault => (d, some fault)
  | .ok () =>
      match extractall ans.depth ms (tmpDir ans dest) (d.put (tmpDir ans dest) .dir) with
      | (d, some .os) | (d, some .extract) =>
          (cleanup (tmpDir ans dest) d,
            some (.issue ("snapshot:import:extract_failed:" ++ ans.error)))
      | (d, some _) => (cleanup (tmpDir ans dest) d, some .raised)
      | (d, none) =>
          match atomicSwap dest (tmpDir ans dest) d.fs with
          | (fs, true) => (cleanup (tmpDir ans dest) { d with fs }, none)
          | (fs, false) =>
              (cleanup (tmpDir ans dest) { d with fs },
                some (.issue ("snapshot:import:atomic_swap_failed:" ++ ans.error)))

/-- `import_workspace_filesystem_snapshot` of an archive that is there, on the worker's disk. -/
def importSnapshotArchive (ans : ImportAnswers) (dest : Path) (ms : List TarMember)
    (d : Disk) : Disk × Option ImportFault :=
  if isDir d.fs dest then safeSnapshotTarExtract ans dest ms d
  else (d, some (.issue "snapshot:import:project_dir_missing"))

end Devnest
