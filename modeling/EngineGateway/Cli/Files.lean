import EngineGateway.Failure
import EngineGateway.Text.Octets

/-!
# Files

The files that a command can read and write. A path is the list of its steps, from the working
directory or from the root; empty steps and single points say nothing. Steps are rows of octets, so
two spellings of the same octets are one step. There is a directory wherever a file lies below,
above the working directory, and where every system has one. Of what lies outside the working
directory no more is known, but for the device that holds nothing and keeps nothing. Reading takes
line breaks of every kind for line feeds. Writing makes the directories that are missing.
-/

namespace EngineGateway.Cli

/-- The steps to a place, from the root or from the working directory. -/
structure Path where
  absolute : Bool := false
  steps : List Text := []
  deriving Repr, DecidableEq

namespace Path

/-- The step that means the directory above. -/
def upward : Text := ".."

/-- A step as its octets spell it; one that has no octets stays as it is. -/
def normalStep (step : Text) : Text := ⟨(Text.Octets.normalName? step.points).getD step.points⟩

/-- The path that a text spells. -/
def ofText (written : Text) : Path where
  absolute := written.startsWith "/"
  steps := ((written.split '/').filter fun step => !(["", "."] : List Text).contains step).map
    normalStep

/-- The text of a path. -/
def text (path : Path) : Text := (if path.absolute then "/" else "") ++ Text.joined "/" path.steps

/-- The directory of the last step. -/
def parent (path : Path) : Path := { path with steps := path.steps.dropLast }

/-- The place one step further. Two points lead back, above the working directory as well, but not
above the root. -/
def child (here : Path) (step : Text) : Path :=
  if step != upward then { here with steps := here.steps ++ [step] }
  else if here.steps.all (· == upward) then
    if here.absolute then here else { here with steps := here.steps ++ [step] }
  else here.parent

/-- Whether a place lies in the working directory. -/
def isInside (path : Path) : Bool := !path.absolute && path.steps.head? != some upward

/-- Whether a place lies on the way to another. -/
def leadsTo (path other : Path) : Bool :=
  path.absolute == other.absolute && path.steps.isPrefixOf other.steps

/-- The device that holds nothing and keeps nothing. -/
def nullDevice : Path := { absolute := true, steps := ["dev", "null"] }

/-- The directories that every system has, each with directories in it that every system has as
well. -/
def systemDirectories : List (Text × List Text) :=
  [("bin", []), ("boot", []), ("dev", ["fd", "mqueue", "pts", "shm"]),
    ("etc", ["alternatives", "apt", "cron.d", "cron.daily", "default", "dpkg", "init.d", "kernel",
      "ld.so.conf.d", "opt", "pam.d", "profile.d", "rc0.d", "rc1.d", "rc2.d", "rc3.d", "rc4.d",
      "rc5.d", "rc6.d", "rcS.d", "security", "selinux", "skel", "ssl", "systemd",
      "terminfo", "update-motd.d"]),
    ("home", []), ("lib", []), ("lib64", []), ("media", []), ("mnt", []), ("opt", []),
    ("proc", ["bus", "driver", "fs", "irq", "net", "self", "sys", "thread-self", "tty"]),
    ("root", []), ("run", ["lock"]), ("sbin", []), ("srv", []),
    ("sys", ["block", "bus", "class", "dev", "devices", "firmware", "fs", "kernel", "module",
      "power"]),
    ("tmp", []),
    ("usr", ["bin", "games", "include", "lib", "lib64", "libexec", "local", "sbin", "share",
      "src"]),
    ("var", ["backups", "cache", "lib", "local", "lock", "log", "mail", "opt", "run", "spool",
      "tmp"])]

/-- The directories of a system two steps and more below the root, beside those in
`systemDirectories`. -/
def deeperDirectories : List (List Text) :=
  [["etc", "ssl", "certs"], ["etc", "ssl", "private"], ["usr", "local", "bin"],
    ["usr", "local", "etc"], ["usr", "local", "games"], ["usr", "local", "include"],
    ["usr", "local", "lib"], ["usr", "local", "man"], ["usr", "local", "sbin"],
    ["usr", "local", "share"], ["usr", "local", "src"], ["usr", "share", "doc"],
    ["usr", "share", "man"], ["usr", "share", "zoneinfo"], ["var", "cache", "apt"],
    ["var", "lib", "apt"], ["var", "lib", "dpkg"], ["var", "log", "apt"], ["var", "spool", "mail"]]

/-- Whether steps from the root lead to a directory that every system has. -/
def isSystemDirectory (steps : List Text) : Bool :=
  deeperDirectories.contains steps ||
    systemDirectories.any fun (name, inside) =>
      steps == [name] || inside.any fun inner => steps == [name, inner]

/-- Whether a place is a directory on every system: the root, a directory above the working
directory, or one of those that every system has. -/
def isGiven (path : Path) : Bool :=
  path.steps.all (· == upward) || (path.absolute && isSystemDirectory path.steps)

/-- The most octets that one step may take. -/
def longestStep : Nat := 255

/-- The most octets that a whole path may take. -/
def longestPath : Nat := 4095

/-- The number of octets that a name takes. -/
def size (name : Text) : Nat := ((Text.Octets.ofName? name.points).map List.length).getD 0

/-- What keeps a path from being asked for: a half that stands for no octet, the character that ends
every name, or its length. -/
def fault? (path : Path) : Option FileFault :=
  if (Text.Octets.ofName? path.text.points).isNone then some .halfInPath
  else if path.text.points.contains (.char '\x00') then some .nullInPath
  else if longestPath < size path.text then some .tooLong
  else none

/-- Whether a path can be asked for. -/
def asked (path : Path) : Except FileFault Unit :=
  match path.fault? with
  | some fault => .error fault
  | none => .ok ()

end Path

/-- Files by their paths. -/
structure Files where
  entries : List (Path × String) := []
  deriving Repr

/-- What is found at a path. -/
inductive Place where
  | file (content : String)
  | directory
  | nothing
  deriving Repr, DecidableEq

namespace Files

/-- What is at a place, where the directories of `made` were made besides. -/
def placeWith (files : Files) (made : List Path) (path : Path) : Place :=
  match files.entries.lookup path with
  | some content => .file content
  | none =>
    if path = .nullDevice then .file ""
    else if path.isGiven || made.contains path ||
        files.entries.any fun entry => path.leadsTo entry.1 then .directory
    else .nothing

/-- What is at a place. -/
def place (files : Files) (path : Path) : Place := files.placeWith [] path

/-- Sets the content of a file. -/
def put (files : Files) (path : Path) (content : String) : Files :=
  if path = .nullDevice then files
  else ⟨(files.entries.filter fun entry => entry.1 != path) ++ [(path, content)]⟩

/-- The place one step further, if the step is not too long to be one. -/
def stepFrom (here : Path) (step : Text) : Except FileFault Path :=
  if Path.longestStep < Path.size step then .error .tooLong else .ok (here.child step)

/-- Goes along directories. -/
def follow (files : Files) (made : List Path) (here : Path) : List Text → Except FileFault Path
  | [] => .ok here
  | step :: rest =>
    match files.placeWith made here with
    | .directory => do follow files made (← stepFrom here step) rest
    | .file _ => .error .parentIsFile
    | .nothing => .error .missing

/-- What a path leads to along directories. -/
def find (files : Files) (made : List Path) (path : Path) : Except FileFault Path :=
  files.follow made { path with steps := [] } path.steps

/-- Line breaks of every kind as line feeds. -/
def lineFeeds : List Char → List Char
  | [] => []
  | '\r' :: '\n' :: rest => '\n' :: lineFeeds rest
  | '\r' :: rest => '\n' :: lineFeeds rest
  | c :: rest => c :: lineFeeds rest

/-- The content of the file that a path leads to. -/
def contentAt (files : Files) (path : Path) : Except FileFault String := do
  path.asked
  match files.place (← files.find [] path) with
  | .file content => return String.ofList (lineFeeds content.toList)
  | .directory => throw .isDirectory
  | .nothing => throw .missing

/-- The text of a file. -/
def read (files : Files) (written : Text) : Except Failure Text :=
  match files.contentAt (.ofText written) with
  | .ok content => .ok content
  | .error fault => .error (.file fault)

/-- Makes a directory in a directory that is there, unless it is there itself: the directories made
by then. A path that leads back at its end names a directory that is there if the way to it is. -/
def makeDirectory (files : Files) (made : List Path) (path : Path) :
    Except FileFault (List Path) := do
  path.asked
  let target ← files.find made path
  if path.steps.getLast? == some Path.upward then return made
  match files.placeWith made target with
  | .directory => return made
  | .file _ => throw .exists
  | .nothing => return target :: made

/-- Makes a directory with those that are missing on the way to it. Its steps are given from the
last to the first. What is missing is made only once: if the directory still cannot be made, it is
not. -/
def makeDirectories (files : Files) (made : List Path) (absolute : Bool) :
    List Text → Except FileFault (List Path)
  | [] => .ok made
  | step :: before =>
    let path : Path := ⟨absolute, (step :: before).reverse⟩
    match files.makeDirectory made path with
    | .error .missing => do
      files.makeDirectory (← makeDirectories files made absolute before) path
    | outcome => outcome

/-- The place that is written to. By then there are directories wherever the way went. -/
def destination (files : Files) (path : Path) : Except FileFault Path := do
  let made ← files.makeDirectories [] path.absolute path.parent.steps.reverse
  path.asked
  let target ← files.find made path
  match files.placeWith made target with
  | .directory => throw .isDirectory
  | _ => return target

/-- Writes a file, over what it held before. -/
def write (files : Files) (written : Text) (content : String) : Except Failure Files :=
  match files.destination (.ofText written) with
  | .error fault => .error (.file fault)
  | .ok target => .ok (files.put target content)

/-- The files that are not as they were before. -/
def changedSince (files before : Files) : List (Path × String) :=
  files.entries.filter fun entry => before.entries.lookup entry.1 != some entry.2

/-- A text without carriage returns is read as it is. -/
theorem lineFeeds_of_forall {cs : List Char} (plain : ∀ c ∈ cs, c ≠ '\r') : lineFeeds cs = cs := by
  induction cs with
  | nil => rfl
  | cons c rest inductionHypothesis =>
    have first : c ≠ '\r' := plain c List.mem_cons_self
    have others := inductionHypothesis fun x member => plain x (List.mem_cons_of_mem _ member)
    unfold lineFeeds
    split <;> simp_all

end Files

end EngineGateway.Cli
