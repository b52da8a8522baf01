import FuturesBot.StepRuns
import FuturesBot.Journal

/-! The files of a WAL, the steps that change them one at a time, and where a crash can
stop a sequence of steps. -/
namespace FuturesBot

open TextLines Dicts CrashPoints

/-- The directories under the root: `segments/{name}.jsonl`, `metadata/{name}.json` and the
`metadata/{name}.tmp` files that are renamed over the latter. -/
structure Disk where
  segments : Dict String Bytes
  metadata : Dict String Bytes
  temps : Dict String Bytes
  deriving DecidableEq

def Disk.empty : Disk := ⟨.empty, .empty, .empty⟩

inductive DiskEffect where
  | createSegment (name : String)
  | appendSegment (name : String) (data : Bytes)
  | writeTemp (name : String) (data : Bytes)
  | replaceMetadata (name : String)
  deriving DecidableEq

namespace Disk

/-- A file opened for appending is created when it is missing. -/
def create (d : Disk) (name : String) : Disk :=
  match d.segments.get? name with
  | some _ => d
  | none => { d with segments := d.segments.set name [] }

def append (d : Disk) (name : String) (data : Bytes) : Disk :=
  { d with segments := d.segments.set name ((d.segments.get? name).getD [] ++ data) }

def apply (d : Disk) : DiskEffect → Disk
  | .createSegment name => d.create name
  | .appendSegment name data => d.append name data
  | .writeTemp name data => { d with temps := d.temps.set name data }
  | .replaceMetadata name =>
    match d.temps.get? name with
    | some data => { d with metadata := d.metadata.set name data, temps := d.temps.erase name }
    | none => d

end Disk

/-- What a step leaves when it is cut: a prefix of the bytes it was to write. Creating and
renaming happen at once. -/
def DiskEffect.cut : DiskEffect → ℕ → List DiskEffect
  | .appendSegment name data, k => [.appendSegment name (data.take k)]
  | .writeTemp name data, k => [.writeTemp name (data.take k)]
  | .createSegment _, _ => []
  | .replaceMetadata _, _ => []

def walDevice : Device Disk DiskEffect := ⟨Disk.apply, DiskEffect.cut⟩

def Disk.applyAll (d : Disk) (es : List DiskEffect) : Disk := walDevice.run d es

/-- The steps of an operation that crashes in step `n`, after `k` bytes of it. -/
def crashAt (es : List DiskEffect) (n k : ℕ) : List DiskEffect := walDevice.crashAt es n k

theorem Disk.applyAll_cons (d : Disk) (e : DiskEffect) (es : List DiskEffect) :
    d.applyAll (e :: es) = (d.apply e).applyAll es := rfl

theorem Disk.applyAll_append (d : Disk) (es fs : List DiskEffect) :
    d.applyAll (es ++ fs) = (d.applyAll es).applyAll fs := walDevice.run_append d es fs

end FuturesBot
