import ParseBench.Files.Volume
import ParseBench.Path

set_option relaxedAutoImplicit false
set_option autoImplicit false

/-!
# Access to files by path

A path is followed from the root or from the current directory, name by name; every name but the
last has to be a directory. Operations that change the volume give the primitive steps that they
take. They fail if something is in their way or if they are refused, and a write may be refused
after a part of it.

## Main definitions

* `ParseBench.Files.OsError`, `ParseBench.Files.AccessFault` — why an access fails.
* `ParseBench.Files.Volume.resolve` — the place that a path denotes.
* `ParseBench.Files.Volume.read`, `ParseBench.Files.Volume.isDirectory` — looking.
* `ParseBench.Files.Volume.write`, `ParseBench.Files.Volume.makeDirectories`,
  `ParseBench.Files.Volume.replace` — changing.
-/

namespace ParseBench.Files

open ParseBench.Text (Bytes quoted)

/-! ## Faults -/

/-- What the operating system objects to. -/
inductive OsError where
  | noEntry
  | alreadyExists
  | busy
  | notDirectory
  | isDirectory
  | nameTooLong
  | refused (reason : Refusal)
deriving DecidableEq, Repr

/-- The number of a refusal. -/
def Refusal.number : Refusal → Nat
  | .notPermitted => 1
  | .inputOutput => 5
  | .accessDenied => 13
  | .fileTooLarge => 27
  | .noSpace => 28
  | .readOnly => 30
  | .overQuota => 122

/-- The wording of a refusal. -/
def Refusal.reason : Refusal → String
  | .notPermitted => "Operation not permitted"
  | .inputOutput => "Input/output error"
  | .accessDenied => "Permission denied"
  | .fileTooLarge => "File too large"
  | .noSpace => "No space left on device"
  | .readOnly => "Read-only file system"
  | .overQuota => "Disk quota exceeded"

/-- The number of an operating-system error. -/
def OsError.number : OsError → Nat
  | .noEntry => 2
  | .busy => 16
  | .alreadyExists => 17
  | .notDirectory => 20
  | .isDirectory => 21
  | .nameTooLong => 36
  | .refused reason => reason.number

/-- The wording of an operating-system error. -/
def OsError.reason : OsError → String
  | .noEntry => "No such file or directory"
  | .busy => "Device or resource busy"
  | .alreadyExists => "File exists"
  | .notDirectory => "Not a directory"
  | .isDirectory => "Is a directory"
  | .nameTooLong => "File name too long"
  | .refused reason => reason.reason

/-- Why an access fails. -/
inductive AccessFault where
  /-- The operating system objects to a path, or to a pair of paths. -/
  | os (error : OsError) (path : String) (other : Option String)
  /-- The operating system refuses to write more into an open file. -/
  | cut (reason : Refusal)
  /-- A path holds the character that ends path texts. -/
  | nul
deriving DecidableEq, Repr

/-- The wording of a failed access. -/
def AccessFault.message : AccessFault → String
  | .os error path other =>
    "[Errno " ++ error.number.repr ++ "] " ++ error.reason ++ ": " ++ quoted path ++
      (match other with
      | some target => " -> " ++ quoted target
      | none => "")
  | .cut reason => "[Errno " ++ reason.number.repr ++ "] " ++ reason.reason
  | .nul => "embedded null byte"

/-! ## Following paths -/

/-- The greatest number of bytes of a name. -/
def maxName : Nat := 255

/-- The greatest number of bytes of a path. -/
def maxPath : Nat := 4095

/-- The place that a path denotes: a name in a directory, or a directory reached without a last
name. -/
inductive Place where
  | named (parent : Location) (name : String)
  | directory (location : Location)
deriving DecidableEq, Repr

/-- The location of a place. -/
def Place.location : Place → Location
  | .named parent name => parent ++ [name]
  | .directory location => location

namespace Volume

/-- Goes from a directory to the directory of a name in it. -/
def enter (v : Volume) (from' : Location) (name : String) : Except OsError Location :=
  if name = ".." then .ok from'.dropLast
  else if maxName < name.utf8ByteSize then .error .nameTooLong
  else match v.node? (from' ++ [name]) with
    | none => .error .noEntry
    | some (.file _) => .error .notDirectory
    | some .directory => .ok (from' ++ [name])

/-- Follows names, all but the last of which have to be directories. -/
def follow (v : Volume) (from' : Location) : List String → Except OsError Place
  | [] => .ok (.directory from')
  | [name] =>
    if name = ".." then .ok (.directory from'.dropLast)
    else if maxName < name.utf8ByteSize then .error .nameTooLong
    else .ok (.named from' name)
  | name :: rest =>
    match v.enter from' name with
    | .ok next => v.follow next rest
    | .error e => .error e

/-- The place that a path denotes. -/
def resolve (v : Volume) (p : Path) : Except OsError Place :=
  if maxPath < p.text.utf8ByteSize then .error .nameTooLong
  else v.follow (if p.root = "" then v.current else []) p.names

/-- What is at a path. -/
def lookup (v : Volume) (p : Path) : Except OsError (Location × Node) :=
  match v.resolve p with
  | .error e => .error e
  | .ok place =>
    match v.node? place.location with
    | some n => .ok (place.location, n)
    | none => .error .noEntry

/-- The fault of an operation on one path. -/
def faultAt (p : Path) (e : OsError) : AccessFault := .os e p.text none

/-! ## Looking -/

/-- The content of the file at a path. -/
def read (v : Volume) (p : Path) : Except AccessFault Bytes :=
  if p.hasNul then .error .nul
  else match v.lookup p with
    | .error e => .error (faultAt p e)
    | .ok (_, .directory) => .error (faultAt p .isDirectory)
    | .ok (_, .file content) => .ok content

/-- Whether a path denotes a directory. Only a name that is too long is a fault. -/
def isDirectory (v : Volume) (p : Path) : Except AccessFault Bool :=
  if p.hasNul then .ok false
  else match v.lookup p with
    | .ok (_, .directory) => .ok true
    | .error .nameTooLong => .error (faultAt p .nameTooLong)
    | _ => .ok false

/-! ## Changing -/

/-- The location at which a file can be opened for writing. -/
def writable (v : Volume) (p : Path) : Except AccessFault Location :=
  if p.hasNul then .error .nul
  else match v.resolve p with
    | .error e => .error (faultAt p e)
    | .ok (.directory _) => .error (faultAt p .isDirectory)
    | .ok (.named directory name) =>
      match v.node? (directory ++ [name]) with
      | some .directory => .error (faultAt p .isDirectory)
      | _ =>
        match v.refusals.opens (directory ++ [name]) with
        | some reason => .error (faultAt p (.refused reason))
        | none => .ok (directory ++ [name])

/-- Writes an open file. If it takes no more than a part of the content, that part is there all the
same. -/
def writeAt (v : Volume) (l : Location) (content : Bytes) : Change × Except AccessFault Unit :=
  match v.refusals.limits l with
  | none => (.write l content, .ok ())
  | some (most, reason) =>
    if content.length ≤ most then (.write l content, .ok ())
    else (.write l (content.take most), .error (.cut reason))

/-- Writes a file. The step taken is given also when only a part is written. -/
def write (v : Volume) (p : Path) (content : Bytes) : List Change × Except AccessFault Unit :=
  match v.writable p with
  | .error fault => ([], .error fault)
  | .ok l => ([(v.writeAt l content).1], (v.writeAt l content).2)

/-- Writes at the end of a file, which is made if it does not exist. -/
def append (v : Volume) (p : Path) (content : Bytes) : Except AccessFault Change :=
  (v.writable p).map fun l => .write l ((v.file? l).getD [] ++ content)

/-- Makes one directory. -/
def makeDirectory (v : Volume) (p : Path) : Except AccessFault Change :=
  if p.hasNul then .error .nul
  else match v.resolve p with
    | .error e => .error (faultAt p e)
    | .ok (.directory _) => .error (faultAt p .alreadyExists)
    | .ok (.named directory name) =>
      match v.node? (directory ++ [name]) with
      | some _ => .error (faultAt p .alreadyExists)
      | none =>
        match v.refusals.makes (directory ++ [name]) with
        | some reason => .error (faultAt p (.refused reason))
        | none => .ok (.makeDirectory (directory ++ [name]))

/-- Forgives a failure to make a directory that is already there. -/
def forgive (v : Volume) (p : Path) (fault : AccessFault) : Except AccessFault Unit :=
  match fault with
  | .nul => .error .nul
  | _ =>
    match v.isDirectory p with
    | .error e => .error e
    | .ok true => .ok ()
    | .ok false => .error fault

/-- Makes a directory and those above it that are missing; `depth` bounds the number of those. The
steps taken are given also when a later one fails. -/
def makeDirectoriesFrom (v : Volume) (p : Path) : Nat → List Change × Except AccessFault Unit
  | 0 =>
    match v.makeDirectory p with
    | .ok change => ([change], .ok ())
    | .error (.os .noEntry path other) => ([], .error (.os .noEntry path other))
    | .error fault => ([], v.forgive p fault)
  | depth + 1 =>
    match v.makeDirectory p with
    | .ok change => ([change], .ok ())
    | .error (.os .noEntry path other) =>
      if p.names.isEmpty then ([], .error (.os .noEntry path other))
      else match v.makeDirectoriesFrom p.parent depth with
        | (above, .error fault) => (above, .error fault)
        | (above, .ok ()) =>
          let v := Change.applyAll v above
          match v.makeDirectory p with
          | .ok change => (above ++ [change], .ok ())
          | .error (.os .noEntry path other) => (above, .error (.os .noEntry path other))
          | .error fault => (above, v.forgive p fault)
    | .error fault => ([], v.forgive p fault)

/-- Makes a directory and those above it that are missing. -/
def makeDirectories (v : Volume) (p : Path) : List Change × Except AccessFault Unit :=
  v.makeDirectoriesFrom p p.names.length

/-- Moves a file onto a path, in place of a file that is there. -/
def replace (v : Volume) (source target : Path) : Except AccessFault Change :=
  let fault (e : OsError) : AccessFault := .os e source.text (some target.text)
  if source.hasNul || target.hasNul then .error .nul
  else match v.resolve source, v.resolve target with
    | .error e, _ => .error (fault e)
    | _, .error e => .error (fault e)
    | .ok (.named d n), .ok (.named d' n') =>
      match v.node? (d ++ [n]), v.refusals.moves (d ++ [n]) (d' ++ [n']), v.node? (d' ++ [n']) with
      | none, _, _ => .error (fault .noEntry)
      | some _, some reason, _ => .error (fault (.refused reason))
      | some .directory, none, _ => .error (fault .isDirectory)
      | some (.file _), none, some .directory => .error (fault .isDirectory)
      | some (.file _), none, _ => .ok (.move (d ++ [n]) (d' ++ [n']))
    | _, _ => .error (fault .busy)

end Volume

end ParseBench.Files
