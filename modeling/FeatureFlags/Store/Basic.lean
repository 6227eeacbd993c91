import FeatureFlags.Flag.Basic
import FeatureFlags.Segment.Basic

/-!
# Stores

A data set holds flags and segments by key.  Updates may arrive late and out of order, so an item
is replaced only by one with a later version, and a deleted item stays as a tombstone that keeps
older versions from coming back.

A store answers lookups of a data set.  It may hide the deleted items itself, and lookups of some
keys may fail.

## What is here

* `Dataset`, read by `Dataset.ofJson`; `Dataset.upsertFlag?` and `upsertSegment?`.
* `Store.flag?`, `Store.segment?`: the lookups.
-/

set_option autoImplicit false

namespace FeatureFlags

/-- The map with a value filed under a key, unless the value there is not older. -/
def SortedMap.insertNewer? {α : Type} (isNewer : α → α → Bool) (m : SortedMap α) (key : String)
    (value : α) : Option (SortedMap α) :=
  match m.find? key with
  | some existing => if isNewer value existing then some (m.insert key value) else none
  | none => some (m.insert key value)

/-- Flags and segments by key. -/
structure Dataset where
  flags : SortedMap Flag
  segments : SortedMap Segment

namespace Dataset

/-- The data set without items. -/
def empty : Dataset := ⟨.empty, .empty⟩

/-- The data set with a flag filed under its key, unless the flag there is not older. -/
def upsertFlag? (d : Dataset) (f : Flag) : Option Dataset :=
  (d.flags.insertNewer? Flag.isNewerThan f.key f).map fun flags => { d with flags }

/-- The data set with a segment filed under its key, unless the segment there is not older. -/
def upsertSegment? (d : Dataset) (s : Segment) : Option Dataset :=
  (d.segments.insertNewer? Segment.isNewerThan s.key s).map fun segments => { d with segments }

/-- The flag under a key, unless it is deleted. -/
def flag? (d : Dataset) (key : String) : Option Flag := (d.flags.find? key).filter (!·.deleted)

/-- The segment under a key, unless it is deleted. -/
def segment? (d : Dataset) (key : String) : Option Segment :=
  (d.segments.find? key).filter (!·.deleted)

/-- Reads a data set. -/
def ofJson : Decoder Dataset := fun j => do
  let ms ← Decode.fields ["flags", "segments"] 0 j
  let flags ← Decode.fieldOr ms "flags" .empty (Decode.map Flag.ofJson)
  let segments ← Decode.fieldOr ms "segments" .empty (Decode.map Segment.ofJson)
  return ⟨flags, segments⟩

end Dataset

/-- A data set as it answers lookups.  A lookup of a key with a failure gives that failure. -/
structure Store where
  data : Dataset
  hidesDeleted : Bool
  flagFailures : String → Option StoreError
  segmentFailures : String → Option StoreError

namespace Store

/-- The store of a data set that hides deleted items and never fails. -/
def ofDataset (d : Dataset) : Store := ⟨d, true, fun _ => none, fun _ => none⟩

/-- Looks up a flag. -/
def flag? (s : Store) (key : String) : Except StoreError (Option Flag) :=
  match s.flagFailures key with
  | some e => .error e
  | none => .ok (if s.hidesDeleted then s.data.flag? key else s.data.flags.find? key)

/-- Looks up a segment. -/
def segment? (s : Store) (key : String) : Except StoreError (Option Segment) :=
  match s.segmentFailures key with
  | some e => .error e
  | none => .ok (if s.hidesDeleted then s.data.segment? key else s.data.segments.find? key)

end Store

end FeatureFlags
