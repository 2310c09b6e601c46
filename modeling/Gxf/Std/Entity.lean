import Mathlib.Data.Int.Notation

/-!
# Entities

Identifiers, limits and events of the entities of an application.
-/

namespace Gxf.Std

/-- `gxf_uid_t`. -/
abbrev Uid := Int

/-- The id of no object. -/
def kNullUid : Uid := 0

/-- An id that is not given yet. -/
def kUnspecifiedUid : Uid := -1

/-- The most entities an application can have. -/
def kMaxEntities : Nat := 1024

/-- The most components an entity can have. -/
def kMaxComponents : Nat := 1024

/-- `gxf_event_t`. -/
inductive GxfEvent where
  | GXF_EVENT_CUSTOM
  | GXF_EVENT_EXTERNAL
  | GXF_EVENT_MEMORY_FREE
  | GXF_EVENT_MESSAGE_SYNC
  | GXF_EVENT_TIME_UPDATE
  | GXF_EVENT_STATE_UPDATE
  deriving DecidableEq, Repr

end Gxf.Std
