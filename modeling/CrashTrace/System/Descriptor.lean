import CrashTrace.Entries
import CrashTrace.Failure
import CrashTrace.Text.Basic

/-!
# Descriptors and sinks

Reports are written to descriptors. A descriptor is open or closed, and an open one is of a kind
that settles what becomes of the bytes written to it. What regular files have received is kept,
also beyond closing.

## Main definitions

- `DescriptorKind`, `DescriptorTable`
- `DescriptorTable.openAs`, `DescriptorTable.close`, `DescriptorTable.contents`
- `DescriptorTable.checkSink` — whether a descriptor can receive reports
- `DescriptorTable.offer` — what a write to a descriptor comes to
- `DescriptorTable.received`, `DescriptorTable.withoutFile` — what is left in the end

## Design notes

A descriptor takes a whole report or refuses its first byte, so the pieces of a report can be
joined before they are offered. A write of nothing never reaches the descriptor.
-/

namespace CrashTrace

/-- What an open descriptor leads to. -/
inductive DescriptorKind where
  /-- A file that can be written only. -/
  | file
  /-- A file that can be read and written. -/
  | readWrite
  /-- A file that can be read only. -/
  | readOnly
  /-- Something that takes no bytes, and how that fails. -/
  | refusing (failure : IoFailure)
  /-- A pipe that nobody reads. -/
  | broken
  /-- The standard output of the process. -/
  | output
  /-- The standard error of the process. -/
  | errors
  deriving DecidableEq

/-- A device without space. -/
def DescriptorKind.full : DescriptorKind := .refusing .noSpace

/-- What a file has received: the part that has been looked at, and the part since then. -/
structure FileText where
  seen : String
  fresh : String
  deriving DecidableEq, Inhabited

def FileText.all (f : FileText) : String := f.seen ++ f.fresh

/-- A file that has received nothing. -/
def FileText.empty : FileText := ⟨"", ""⟩

/-- The open descriptors, the files, and what standard output and standard error have received
through descriptors. -/
structure DescriptorTable where
  kinds : Entries Int DescriptorKind
  files : Entries Int FileText
  /-- Descriptors whose contents have been looked at while they had no file. -/
  lookedAt : List Int
  standardOutput : String
  standardError : String
  deriving DecidableEq

/-- A descriptor that has been chosen to receive reports. -/
structure Sink where
  descriptor : Int
  deriving DecidableEq

namespace Sink

def errorDescriptor : Int := 2

/-- Standard error, which can be chosen without looking at what it leads to. -/
def standardError : Sink := ⟨errorDescriptor⟩

end Sink

/-- What a write to a descriptor comes to. -/
inductive Offer where
  | taken (table : DescriptorTable)
  | refused (failure : IoFailure)
  /-- Nobody reads the pipe: the write fails, and the writing thread is sent a signal. -/
  | pipeBroken

namespace DescriptorTable

/-- Standard error alone is open. -/
def initial : DescriptorTable := ⟨[(Sink.errorDescriptor, .errors)], [], [], "", ""⟩

/-- What a descriptor leads to if it is open. -/
def kind? (t : DescriptorTable) (fd : Int) : Option DescriptorKind := t.kinds.find? fd

def file? (t : DescriptorTable) (fd : Int) : Option FileText := t.files.find? fd

/-- Opens a descriptor, in place of what it led to before. Opening a file for writing empties
it. -/
def openAs (t : DescriptorTable) (fd : Int) (kind : DescriptorKind) : DescriptorTable :=
  let kinds := t.kinds.put fd kind
  match kind with
  | .file | .readWrite => { t with kinds := kinds, files := t.files.put fd FileText.empty }
  | .readOnly | .refusing _ | .broken | .output | .errors => { t with kinds := kinds }

/-- Closes a descriptor, and tells whether it was open. -/
def close (t : DescriptorTable) (fd : Int) : Bool × DescriptorTable :=
  ((t.kind? fd).isSome, { t with kinds := t.kinds.erase fd })

/-- What the file of a descriptor has received since the last look at it; nothing if there is no
file. -/
def contents (t : DescriptorTable) (fd : Int) : String × DescriptorTable :=
  match t.file? fd with
  | some file => (file.fresh, { t with files := t.files.put fd ⟨file.all, ""⟩ })
  | none => ("", { t with lookedAt := fd :: t.lookedAt })

/-- Empties the file of a descriptor if there is one. -/
def truncate (t : DescriptorTable) (fd : Int) : DescriptorTable :=
  match t.file? fd with
  | some _ => { t with files := t.files.put fd FileText.empty }
  | none => t

def received (t : DescriptorTable) : Entries Int String :=
  t.files.map fun entry => (entry.1, entry.2.all)

/-- The descriptors that have been looked at and never had a file. -/
def withoutFile (t : DescriptorTable) : List Int :=
  (t.lookedAt.filter fun fd => (t.file? fd).isNone).eraseDups

/-- Whether a descriptor can receive reports. -/
def checkSink (t : DescriptorTable) (fd : Int) : Except Failure Unit :=
  if fd < 0 then .error (.invalidSink fd .negative)
  else
    match t.kind? fd with
    | none => .error (.invalidSink fd .closed)
    | some .readOnly => .error (.invalidSink fd .notWritable)
    | some _ => .ok ()

/-- The sink on a descriptor that can receive reports. -/
def sink (t : DescriptorTable) (fd : Int) : Except Failure Sink :=
  (t.checkSink fd).map fun _ => ⟨fd⟩

/-- Adds to what a file has received. -/
def append (t : DescriptorTable) (fd : Int) (text : Text) : DescriptorTable :=
  let file := (t.file? fd).getD FileText.empty
  { t with files := t.files.put fd { file with fresh := file.fresh ++ String.ofList text } }

def addOutput (t : DescriptorTable) (text : Text) : DescriptorTable :=
  { t with standardOutput := t.standardOutput ++ String.ofList text }

def addErrors (t : DescriptorTable) (text : Text) : DescriptorTable :=
  { t with standardError := t.standardError ++ String.ofList text }

def offer (t : DescriptorTable) (fd : Int) (text : Text) : Offer :=
  if text = [] then .taken t
  else
    match t.kind? fd with
    | some .output => .taken (t.addOutput text)
    | some .errors => .taken (t.addErrors text)
    | some .file | some .readWrite => .taken (t.append fd text)
    | some (.refusing failure) => .refused failure
    | some .broken => .pipeBroken
    | some .readOnly | none => .refused .badDescriptor

end DescriptorTable

end CrashTrace
