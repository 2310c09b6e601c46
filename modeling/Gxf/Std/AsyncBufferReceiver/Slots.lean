import Mathlib.Data.Fin.Basic
import Gxf.Core.Result
import Gxf.Lib.Run

/-!
# The asynchronous buffer receiver

A writer and a reader share four slots and three control variables without a lock.  A step is
one access to a shared variable.  The data of a slot are accessed over two steps: they are torn
in between, and a reader who finds them changed at the end has torn data.
-/

namespace Gxf.Std

open Gxf.Core Gxf.Lib

namespace AsyncBufferReceiver

variable {Value : Type}

/-- What a slot holds. -/
inductive Content (Value : Type) where
  | null
  | torn
  | holds (value : Value)
  deriving DecidableEq, Repr

/-- Where `pop_abi` is. -/
inductive Reader (Value : Type) where
  | idle
  /-- Before `is_filled_first_time_` is read. -/
  | filled
  /-- Before `freshest_` is read. -/
  | freshest
  /-- Before `reading_` is written. -/
  | reading (pair : Fin 2)
  /-- Before `slots_[reading_pair]` is read. -/
  | slot (pair : Fin 2)
  /-- Before the data of the slot are copied. -/
  | copy (pair slot : Fin 2)
  /-- In the middle of the copy. -/
  | copying (pair slot : Fin 2) (content : Content Value)
  /-- Before the reference count is increased. -/
  | count (content : Content Value)
  deriving DecidableEq, Repr

/-- Where `push_abi` is. -/
inductive Writer (Value : Type) where
  | idle
  /-- Before `reading_` is read. -/
  | reading (value : Value)
  /-- Before `slots_[writing_pair]` is read. -/
  | slot (value : Value) (pair : Fin 2)
  /-- Before the data of the slot are written. -/
  | write (value : Value) (pair slot : Fin 2)
  /-- In the middle of that. -/
  | writing (value : Value) (pair slot : Fin 2)
  /-- Before `slots_[writing_pair]` is written. -/
  | slots (value : Value) (pair slot : Fin 2)
  /-- Before `freshest_` is written. -/
  | freshest (value : Value) (pair : Fin 2)
  /-- Before `is_filled_first_time_` is read. -/
  | filled
  /-- Before `is_filled_first_time_` is written. -/
  | fill
  deriving DecidableEq, Repr

/-- What a step reports. -/
inductive Report (Value : Type) where
  /-- The step has to wait for another one. -/
  | blocked
  | progressed
  /-- `push_abi` returned. -/
  | pushed (result : Except GxfResult Unit)
  /-- `pop_abi` has its entity, which is null before the first push. -/
  | sampled (content : Option (Content Value))
  /-- `pop_abi` returned. -/
  | popped (result : Except GxfResult (Option (Content Value)))

/-- A call, or the next step of one. -/
inductive Op (Value : Type) where
  /-- `push_abi(other)`, with the result of `Entity::Shared`. -/
  | push (value : Value) (lookup : Except GxfResult Unit)
  | write
  /-- `pop_abi(uid)`, with whether `uid` is a null pointer. -/
  | pop (isNull : Bool)
  /-- With the result of `GxfEntityRefCountInc`. -/
  | read (code : GxfResult)

end AsyncBufferReceiver

open AsyncBufferReceiver

/-- The fields of the receiver, and where its writer and its reader are.  The control variables
are only ever 0 or 1. -/
structure AsyncBufferReceiver (Value : Type) where
  entityData : Fin 2 → Fin 2 → Content Value
  freshest : Fin 2
  reading : Fin 2
  slots : Fin 2 → Fin 2
  isFilledFirstTime : Bool
  reader : Reader Value
  writer : Writer Value

namespace AsyncBufferReceiver

variable {Value : Type}

/-- The receiver after `initialize()`. -/
def init : AsyncBufferReceiver Value where
  entityData := fun _ _ => .null
  freshest := 0
  reading := 0
  slots := fun _ => 0
  isFilledFirstTime := false
  reader := .idle
  writer := .idle

/-- The data of a slot change. -/
def store (receiver : AsyncBufferReceiver Value) (pair slot : Fin 2) (content : Content Value) :
    AsyncBufferReceiver Value :=
  { receiver with
    entityData := Function.update receiver.entityData pair
      (Function.update (receiver.entityData pair) slot content) }

/-- The beginning of `push_abi(other)`, when no other push is going on. -/
def pushAbi (receiver : AsyncBufferReceiver Value) (value : Value)
    (lookup : Except GxfResult Unit) : AsyncBufferReceiver Value × Report Value :=
  match receiver.writer, lookup with
  | .idle, .ok () => ({ receiver with writer := .reading value }, .progressed)
  | .idle, .error code => (receiver, .pushed (.error code))
  | _, _ => (receiver, .blocked)

/-- The next step of `push_abi(other)`. -/
def write (receiver : AsyncBufferReceiver Value) : AsyncBufferReceiver Value × Report Value :=
  match receiver.writer with
  | .idle => (receiver, .blocked)
  | .reading value => ({ receiver with writer := .slot value (1 - receiver.reading) }, .progressed)
  | .slot value pair =>
      ({ receiver with writer := .write value pair (1 - receiver.slots pair) }, .progressed)
  | .write value pair slot =>
      ({ receiver.store pair slot .torn with writer := .writing value pair slot }, .progressed)
  | .writing value pair slot =>
      ({ receiver.store pair slot (.holds value) with writer := .slots value pair slot },
        .progressed)
  | .slots value pair slot =>
      ({ receiver with
          slots := Function.update receiver.slots pair slot
          writer := .freshest value pair }, .progressed)
  | .freshest _ pair => ({ receiver with freshest := pair, writer := .filled }, .progressed)
  | .filled =>
      if receiver.isFilledFirstTime then ({ receiver with writer := .idle }, .pushed (.ok ()))
      else ({ receiver with writer := .fill }, .progressed)
  | .fill => ({ receiver with isFilledFirstTime := true, writer := .idle }, .pushed (.ok ()))

/-- The beginning of `pop_abi(uid)`, when no other pop is going on. -/
def popAbi (receiver : AsyncBufferReceiver Value) (isNull : Bool) :
    AsyncBufferReceiver Value × Report Value :=
  match receiver.reader with
  | .idle =>
      if isNull then (receiver, .popped (.error .GXF_ARGUMENT_NULL))
      else ({ receiver with reader := .filled }, .progressed)
  | _ => (receiver, .blocked)

/-- What a copy gets that has found a content at its beginning. -/
def Content.copied [DecidableEq Value] (begun ended : Content Value) : Content Value :=
  if begun = ended then begun else .torn

/-- The next step of `pop_abi(uid)`. -/
def read [DecidableEq Value] (receiver : AsyncBufferReceiver Value) (code : GxfResult) :
    AsyncBufferReceiver Value × Report Value :=
  match receiver.reader with
  | .idle => (receiver, .blocked)
  | .filled =>
      if receiver.isFilledFirstTime then ({ receiver with reader := .freshest }, .progressed)
      else ({ receiver with reader := .idle }, .sampled none)
  | .freshest => ({ receiver with reader := .reading receiver.freshest }, .progressed)
  | .reading pair => ({ receiver with reading := pair, reader := .slot pair }, .progressed)
  | .slot pair => ({ receiver with reader := .copy pair (receiver.slots pair) }, .progressed)
  | .copy pair slot =>
      ({ receiver with reader := .copying pair slot (receiver.entityData pair slot) }, .progressed)
  | .copying pair slot content =>
      let copied := content.copied (receiver.entityData pair slot)
      ({ receiver with reader := .count copied }, .sampled (some copied))
  | .count content =>
      ({ receiver with reader := .idle },
        .popped (if code = .GXF_SUCCESS then .ok (some content) else .error code))

/-- The writer and the reader. -/
def system [DecidableEq Value] : System (AsyncBufferReceiver Value) (Op Value) (Report Value) where
  step receiver
    | .push value lookup => receiver.pushAbi value lookup
    | .write => receiver.write
    | .pop isNull => receiver.popAbi isNull
    | .read code => receiver.read code

/-! ## The control variables -/

/-- The pair of a push, from its choice until `freshest_` is written. -/
def Writer.pair : Writer Value → Option (Fin 2)
  | .slot _ chosen | .write _ chosen _ | .writing _ chosen _ | .slots _ chosen _
  | .freshest _ chosen => some chosen
  | .idle | .reading _ | .filled | .fill => none

/-- The pair of a push, as long as its slot is not announced. -/
def Writer.unannounced : Writer Value → Option (Fin 2)
  | .slot _ chosen | .write _ chosen _ | .writing _ chosen _ | .slots _ chosen _ => some chosen
  | .idle | .reading _ | .freshest _ _ | .filled | .fill => none

/-- The slot of a push, as long as it is not announced. -/
def Writer.target : Writer Value → Option (Fin 2 × Fin 2)
  | .write _ chosen index | .writing _ chosen index | .slots _ chosen index =>
      some (chosen, index)
  | .idle | .reading _ | .slot .. | .freshest .. | .filled | .fill => none

/-- The pair of a pop, after it is announced. -/
def Reader.pair : Reader Value → Option (Fin 2)
  | .slot chosen | .copy chosen _ | .copying chosen _ _ => some chosen
  | .idle | .filled | .freshest | .reading _ | .count _ => none

/-- The slot of a pop. -/
def Reader.source : Reader Value → Option (Fin 2 × Fin 2)
  | .copy chosen index | .copying chosen index _ => some (chosen, index)
  | .idle | .filled | .freshest | .reading _ | .slot _ | .count _ => none

/-- What holds of the control variables and the positions of the two parties. -/
structure Coherent (receiver : AsyncBufferReceiver Value) : Prop where
  /-- A push into the pair that is announced for reading goes to the freshest pair. -/
  crossing : ∀ pair, receiver.writer.pair = some pair → pair = receiver.reading →
    receiver.freshest = pair
  /-- A pop that is going to announce another pair goes to the freshest pair, as a push does. -/
  ahead : ∀ pair, receiver.reader = .reading pair → pair ≠ receiver.reading →
    receiver.freshest = pair ∧ ∀ other, receiver.writer.pair = some other → other = pair
  aside : ∀ pair slot, receiver.writer.target = some (pair, slot) → slot ≠ receiver.slots pair
  announced : ∀ pair, receiver.reader.pair = some pair → receiver.reading = pair
  apart : ∀ pair slot, receiver.reader.source = some (pair, slot) →
    receiver.writer.unannounced = some pair → slot = receiver.slots pair

theorem Coherent.init : Coherent (init : AsyncBufferReceiver Value) where
  crossing := nofun
  ahead := nofun
  aside := nofun
  announced := nofun
  apart := nofun

variable {receiver : AsyncBufferReceiver Value}

theorem one_sub_ne (bit : Fin 2) : 1 - bit ≠ bit := by
  revert bit
  decide

theorem eq_one_sub {bit other : Fin 2} (different : other ≠ bit) : other = 1 - bit := by
  revert bit other
  decide

section

variable (coherent : Coherent receiver)
include coherent

theorem Coherent.pushAbi (value : Value)
    (lookup : Except GxfResult Unit) : Coherent (receiver.pushAbi value lookup).1 := by
  unfold AsyncBufferReceiver.pushAbi
  split
  next =>
    refine ⟨nofun, fun pair isAt different => ?_, nofun, coherent.announced, nofun⟩
    exact ⟨(coherent.ahead pair isAt different).1, nofun⟩
  next => exact coherent
  next => exact coherent

theorem Coherent.popAbi (isNull : Bool) : Coherent (receiver.popAbi isNull).1 := by
  unfold AsyncBufferReceiver.popAbi
  split
  next =>
    split
    next => exact coherent
    next => exact ⟨coherent.crossing, nofun, coherent.aside, nofun, nofun⟩
  next => exact coherent

theorem Coherent.rest {reader : Reader Value}
    (notReading : ∀ pair, reader ≠ .reading pair) (noPair : reader.pair = none)
    (noSource : reader.source = none) : Coherent { receiver with reader } where
  crossing := coherent.crossing
  ahead := fun pair isAt => absurd isAt (notReading pair)
  aside := coherent.aside
  announced := fun pair isAt => by cases noPair.symm.trans isAt
  apart := fun pair slot isAt => by cases noSource.symm.trans isAt

theorem Coherent.read [DecidableEq Value] (code : GxfResult) : Coherent (receiver.read code).1 := by
  cases isAt : receiver.reader with
  | idle =>
      simp only [AsyncBufferReceiver.read, isAt]
      exact coherent
  | filled =>
      simp only [AsyncBufferReceiver.read, isAt]
      split
      next => exact coherent.rest nofun rfl rfl
      next => exact coherent.rest nofun rfl rfl
  | freshest =>
      simp only [AsyncBufferReceiver.read, isAt]
      refine ⟨coherent.crossing, ?_, coherent.aside, nofun, nofun⟩
      rintro _ ⟨⟩ different
      refine ⟨rfl, fun other writes => ?_⟩
      -- A push into the announced pair would go to the freshest pair.
      by_contra notFreshest
      have announced : other = receiver.reading :=
        (eq_one_sub notFreshest).trans (eq_one_sub (Ne.symm different)).symm
      exact notFreshest (coherent.crossing other writes announced).symm
  | reading pair =>
      simp only [AsyncBufferReceiver.read, isAt]
      refine ⟨?_, nofun, coherent.aside, ?_, nofun⟩
      · intro other writes chosen
        by_cases same : pair = receiver.reading
        · exact coherent.crossing other writes (chosen.trans same)
        · exact (coherent.ahead pair isAt same).1.trans chosen.symm
      · rintro _ ⟨⟩
        rfl
  | slot pair =>
      simp only [AsyncBufferReceiver.read, isAt]
      refine ⟨coherent.crossing, nofun, coherent.aside, ?_, ?_⟩
      · rintro _ ⟨⟩
        exact coherent.announced pair (by rw [isAt]; rfl)
      · rintro _ _ ⟨⟩ _
        rfl
  | copy pair slot =>
      simp only [AsyncBufferReceiver.read, isAt]
      refine ⟨coherent.crossing, nofun, coherent.aside, ?_, ?_⟩
      · rintro _ ⟨⟩
        exact coherent.announced pair (by rw [isAt]; rfl)
      · rintro _ _ ⟨⟩
        exact coherent.apart pair slot (by rw [isAt]; rfl)
  | copying | count =>
      simp only [AsyncBufferReceiver.read, isAt]
      exact coherent.rest nofun rfl rfl

theorem Coherent.goOn {writer : Writer Value} {entityData : Fin 2 → Fin 2 → Content Value}
    (pair : writer.pair = receiver.writer.pair) (target : writer.target = receiver.writer.target)
    (unannounced : writer.unannounced = receiver.writer.unannounced) :
    Coherent { receiver with writer, entityData } where
  crossing := fun other => by rw [pair]; exact coherent.crossing other
  ahead := fun other isAt different => by rw [pair]; exact coherent.ahead other isAt different
  aside := fun other slot => by rw [target]; exact coherent.aside other slot
  announced := coherent.announced
  apart := fun other slot isAt => by rw [unannounced]; exact coherent.apart other slot isAt

theorem Coherent.write : Coherent receiver.write.1 := by
  cases isAt : receiver.writer with
  | idle =>
      simp only [AsyncBufferReceiver.write, isAt]
      exact coherent
  | reading value =>
      simp only [AsyncBufferReceiver.write, isAt]
      refine ⟨?_, fun pair reads different => ?_, nofun, coherent.announced, ?_⟩
      · rintro _ ⟨⟩ same
        exact absurd same (one_sub_ne _)
      · refine ⟨(coherent.ahead pair reads different).1, ?_⟩
        rintro _ ⟨⟩
        exact (eq_one_sub different).symm
      · rintro pair slot source ⟨⟩
        have reads : receiver.reader.pair = some (1 - receiver.reading) := by
          cases isReader : receiver.reader with
          | copy _ _ | copying _ _ _ =>
              rw [isReader] at source
              cases source
              rfl
          | _ =>
              rw [isReader] at source
              cases source
        exact absurd (coherent.announced _ reads).symm (one_sub_ne _)
  | slot value pair =>
      simp only [AsyncBufferReceiver.write, isAt]
      have writes : receiver.writer.pair = some pair := by rw [isAt]; rfl
      refine ⟨?_, fun other reads different => ?_, ?_, coherent.announced, ?_⟩
      · rintro _ ⟨⟩
        exact coherent.crossing pair writes
      · refine ⟨(coherent.ahead other reads different).1, ?_⟩
        rintro _ ⟨⟩
        exact (coherent.ahead other reads different).2 pair writes
      · rintro _ _ ⟨⟩
        exact one_sub_ne _
      · rintro _ slot source ⟨⟩
        exact coherent.apart pair slot source (by rw [isAt]; rfl)
  | write | writing =>
      simp only [AsyncBufferReceiver.write, isAt]
      exact coherent.goOn (by rw [isAt]; rfl) (by rw [isAt]; rfl) (by rw [isAt]; rfl)
  | slots value pair slot =>
      simp only [AsyncBufferReceiver.write, isAt]
      have writes : receiver.writer.pair = some pair := by rw [isAt]; rfl
      refine ⟨?_, fun other reads different => ?_, nofun, coherent.announced, nofun⟩
      · rintro _ ⟨⟩
        exact coherent.crossing pair writes
      · refine ⟨(coherent.ahead other reads different).1, ?_⟩
        rintro _ ⟨⟩
        exact (coherent.ahead other reads different).2 pair writes
  | freshest value pair =>
      simp only [AsyncBufferReceiver.write, isAt]
      refine ⟨nofun, fun other reads different => ?_, nofun, coherent.announced, nofun⟩
      exact ⟨(coherent.ahead other reads different).2 pair (by rw [isAt]; rfl), nofun⟩
  | filled =>
      simp only [AsyncBufferReceiver.write, isAt]
      have writes : receiver.writer.pair = none := by rw [isAt]; rfl
      split
      next => exact coherent.goOn (by rw [isAt]; rfl) (by rw [isAt]; rfl) (by rw [isAt]; rfl)
      next => exact coherent.goOn (by rw [isAt]; rfl) (by rw [isAt]; rfl) (by rw [isAt]; rfl)
  | fill =>
      simp only [AsyncBufferReceiver.write, isAt]
      have next : Coherent { receiver with writer := Writer.idle } :=
        coherent.goOn (by rw [isAt]; rfl) (by rw [isAt]; rfl) (by rw [isAt]; rfl)
      exact ⟨next.crossing, next.ahead, next.aside, next.announced, next.apart⟩

theorem Coherent.step [DecidableEq Value] (op : Op Value) :
    Coherent (system.step receiver op).1 := by
  cases op with
  | push value lookup => exact coherent.pushAbi value lookup
  | write => exact coherent.write
  | pop isNull => exact coherent.popAbi isNull
  | read code => exact coherent.read code

end

end AsyncBufferReceiver

end Gxf.Std
