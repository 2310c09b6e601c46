import Gxf.Std.AsyncBufferReceiver.Slots

/-!
# The receiver as a register

Pushes are numbered in the order in which they begin.  A pop gets a number that is at least that
of the last push that had returned when the pop began, and successive pops get numbers that do
not decrease.
-/

namespace Gxf.Std

open Gxf.Core Gxf.Lib Function

namespace AsyncBufferReceiver

variable {Value : Type}

/-- What a pop got, with the number of pushes that had returned when it began. -/
structure Sample (Value : Type) where
  content : Option (Content (Nat × Value))
  floor : Nat

/-- The pushes that have begun and that have returned, the latter also when the last pop began,
and what the pops got, latest first. -/
structure Ledger (Value : Type) where
  begun : Nat
  completed : Nat
  floor : Nat
  samples : List (Sample Value)

def Op.number (begun : Nat) : Op Value → Op (Nat × Value)
  | .push value lookup => .push (begun + 1, value) lookup
  | .write => .write
  | .pop isNull => .pop isNull
  | .read code => .read code

/-- What a step adds to the ledger. -/
def Ledger.note (ledger : Ledger Value) : Op Value → Report (Nat × Value) → Ledger Value
  | .push .., .progressed => { ledger with begun := ledger.begun + 1 }
  | .write, .pushed _ => { ledger with completed := ledger.completed + 1 }
  | .pop _, .progressed => { ledger with floor := ledger.completed }
  | .read _, .sampled content =>
      { ledger with samples := ⟨content, ledger.floor⟩ :: ledger.samples }
  | _, _ => ledger

def numbered [DecidableEq Value] :
    System (AsyncBufferReceiver (Nat × Value) × Ledger Value) (Op Value)
      (Report (Nat × Value)) where
  step pair op :=
    let answer := system.step pair.1 (op.number pair.2.begun)
    ((answer.1, pair.2.note op answer.2), answer.2)

/-- Before the first push. -/
def numberedInit : AsyncBufferReceiver (Nat × Value) × Ledger Value := (init, ⟨0, 0, 0, []⟩)

/-- The number of what a slot holds. -/
def Content.number : Content (Nat × Value) → Nat
  | .holds value => value.1
  | .null | .torn => 0

/-- The number of what a pop got. -/
def Sample.number (sample : Sample Value) : Nat := sample.content.elim 0 Content.number

/-- A pop got a null entity before the first push has returned, or a value that is not older than
the last push that had returned when the pop began. -/
def Sample.Recent (sample : Sample Value) : Prop :=
  match sample.content with
  | none => sample.floor = 0
  | some content => ∃ number value, content = .holds (number, value) ∧ sample.floor ≤ number

/-- The number of what the last pop got. -/
def Ledger.last (ledger : Ledger Value) : Nat := ledger.samples.head?.elim 0 Sample.number

/-- A number that a pop may get now. -/
structure Ledger.Allows (ledger : Ledger Value) (number : Nat) : Prop where
  positive : 1 ≤ number
  floor : ledger.floor ≤ number
  last : ledger.last ≤ number

/-- The value of a push, until `freshest_` is written. -/
def Writer.current : Writer Value → Option Value
  | .reading value | .slot value _ | .write value _ _ | .writing value _ _ | .slots value _ _
  | .freshest value _ => some value
  | .idle | .filled | .fill => none

/-- Whether a push has not returned. -/
def Writer.busy : Writer Value → Bool
  | .idle => false
  | _ => true

/-- Whether a pop has found that the receiver is filled. -/
def Reader.sure : Reader Value → Bool
  | .freshest | .reading _ | .slot _ | .copy .. | .copying .. => true
  | .idle | .filled | .count _ => false

/-- What the announced slot of a pair holds. -/
def newest (receiver : AsyncBufferReceiver Value) (pair : Fin 2) : Content Value :=
  receiver.entityData pair (receiver.slots pair)

def freshestNumber (receiver : AsyncBufferReceiver (Nat × Value)) : Nat :=
  (receiver.newest receiver.freshest).number

/-- What holds of the numbers of the values. -/
structure Dated (receiver : AsyncBufferReceiver (Nat × Value)) (ledger : Ledger Value) : Prop where
  whole : ∀ pair, receiver.newest pair ≠ .torn
  begun : ledger.completed + receiver.writer.busy.toNat = ledger.begun
  current : ∀ value, receiver.writer.current = some value → value.1 = ledger.begun
  written : ∀ value pair slot, receiver.writer = .slots value pair slot →
    receiver.entityData pair slot = .holds value
  announced : ∀ value pair, receiver.writer = .freshest value pair →
    receiver.newest pair = .holds value
  bound : ∀ pair, (receiver.newest pair).number ≤ ledger.begun
  older : ∀ value, receiver.writer.current = some value → ∀ pair,
    receiver.writer ≠ .freshest value pair → (receiver.newest pair).number < ledger.begun
  fresh : ledger.begun ≤ receiver.freshestNumber + receiver.writer.current.isSome.toNat
  filled : receiver.isFilledFirstTime = true ↔ 1 ≤ ledger.completed
  reads : receiver.reader.sure = true → 1 ≤ ledger.completed
  floor : ledger.floor ≤ ledger.completed
  last : ledger.last ≤ receiver.freshestNumber
  unfilled : ledger.completed = 0 → ledger.last = 0
  chosen : ∀ pair, receiver.reader = .reading pair ∨ receiver.reader = .slot pair →
    ledger.Allows (receiver.newest pair).number
  source : ∀ pair slot, receiver.reader.source = some (pair, slot) →
    ledger.Allows (receiver.entityData pair slot).number ∧
      (receiver.entityData pair slot).number ≤ receiver.freshestNumber
  copying : ∀ pair slot content, receiver.reader = .copying pair slot content →
    content = receiver.entityData pair slot
  recent : ∀ sample ∈ ledger.samples, sample.Recent
  ordered : ledger.samples.Pairwise fun later earlier => earlier.number ≤ later.number

variable {receiver : AsyncBufferReceiver (Nat × Value)} {ledger : Ledger Value}

theorem Dated.init : Dated (init : AsyncBufferReceiver (Nat × Value)) ⟨0, 0, 0, []⟩ where
  whole := fun _ => by simp [newest, AsyncBufferReceiver.init]
  begun := rfl
  current := nofun
  written := nofun
  announced := nofun
  bound := fun _ => le_refl 0
  older := nofun
  fresh := le_refl 0
  filled := by simp [AsyncBufferReceiver.init]
  reads := nofun
  floor := le_refl 0
  last := le_refl 0
  unfilled := fun _ => rfl
  chosen := fun _ => nofun
  source := fun _ _ => nofun
  copying := nofun
  recent := nofun
  ordered := .nil

theorem Content.holds_of_number {content : Content (Nat × Value)} (positive : 1 ≤ content.number) :
    ∃ value, content = .holds (content.number, value) := by
  cases content with
  | holds value => exact ⟨value.2, rfl⟩
  | null | torn => cases positive

theorem Dated.completed_le (dated : Dated receiver ledger) :
    ledger.completed ≤ receiver.freshestNumber := by
  have begun := dated.begun
  have fresh := dated.fresh
  cases isAt : receiver.writer with
  | _ =>
      simp only [isAt, Writer.busy, Writer.current, Option.isSome_some, Option.isSome_none,
        Bool.toNat_true, Bool.toNat_false] at begun fresh
      omega

variable {pair slot : Fin 2} {content : Content Value} {writer : Writer (Nat × Value)}
  {value : Nat × Value} {reader : Reader (Nat × Value)}

theorem Dated.newest_le (dated : Dated receiver ledger) (coherent : Coherent receiver)
    (reads : receiver.reader.pair = some pair) :
    (receiver.newest pair).number ≤ receiver.freshestNumber := by
  have fresh := dated.fresh
  cases current : receiver.writer.current with
  | none =>
      rw [current] at fresh
      exact (dated.bound pair).trans fresh
  | some value =>
      by_cases announces : receiver.writer = .freshest value pair
      · -- The push goes to the announced pair, which is the freshest one.
        have writes : receiver.writer.pair = some pair := by rw [announces]; rfl
        have same := coherent.crossing pair writes (coherent.announced pair reads).symm
        rw [freshestNumber, same]
      · have older := dated.older value current pair announces
        rw [current] at fresh
        exact Nat.le_of_lt_succ (older.trans_le fresh)

/-! ## Steps of the writer -/

theorem newest_store
    {receiver : AsyncBufferReceiver Value} (aside : slot ≠ receiver.slots pair) (other : Fin 2) :
    (receiver.store pair slot content).newest other = receiver.newest other := by
  by_cases same : other = pair
  · subst same
    simp only [newest, store, update_self]
    exact update_of_ne (Ne.symm aside) _ _
  · simp only [newest, store]
    rw [update_of_ne same]

theorem entityData_store {otherPair otherSlot : Fin 2}
    {receiver : AsyncBufferReceiver Value} (different : (otherPair, otherSlot) ≠ (pair, slot)) :
    (receiver.store pair slot content).entityData otherPair otherSlot =
      receiver.entityData otherPair otherSlot := by
  by_cases same : otherPair = pair
  · subst same
    have aside : otherSlot ≠ slot := fun same => different (by rw [same])
    simp only [store, update_self]
    exact update_of_ne aside _ _
  · simp only [store]
    rw [update_of_ne same]

theorem entityData_store_self {receiver : AsyncBufferReceiver Value} :
    (receiver.store pair slot content).entityData pair slot = content := by
  simp only [store, update_self]

/-- The slot of a pop is not the slot of a push. -/
theorem Coherent.source_ne_target {receiver : AsyncBufferReceiver Value}
    (coherent : Coherent receiver) {source target : Fin 2 × Fin 2}
    (reads : receiver.reader.source = some source)
    (writes : receiver.writer.target = some target) : source ≠ target := by
  rintro rfl
  obtain ⟨pair, slot⟩ := source
  refine coherent.aside pair slot writes (coherent.apart pair slot reads ?_)
  cases isAt : receiver.writer with
  | write _ _ _ | writing _ _ _ | slots _ _ _ =>
      rw [isAt] at writes
      cases writes
      rfl
  | _ =>
      rw [isAt] at writes
      cases writes

section

variable (dated : Dated receiver ledger)
include dated

theorem Dated.store (coherent : Coherent receiver) {content : Content (Nat × Value)}
    (target : receiver.writer.target = some (pair, slot))
    (busy : writer.busy = receiver.writer.busy)
    (current : writer.current = receiver.writer.current)
    (notAnnounced : ∀ value pair, writer ≠ .freshest value pair)
    (wasNotAnnounced : ∀ value pair, receiver.writer ≠ .freshest value pair)
    (written : ∀ value other index, writer = .slots value other index →
      other = pair ∧ index = slot ∧ content = .holds value) :
    Dated { receiver.store pair slot content with writer } ledger := by
  have aside := coherent.aside pair slot target
  have sameNewest : ∀ other, ({ receiver.store pair slot content with writer }).newest other =
      receiver.newest other := newest_store aside
  have sameFreshest : ({ receiver.store pair slot content with writer }).freshestNumber =
      receiver.freshestNumber := by
    rw [freshestNumber, sameNewest]
    rfl
  have sameSource {otherPair otherSlot : Fin 2}
      (reads : receiver.reader.source = some (otherPair, otherSlot)) :
      (receiver.store pair slot content).entityData otherPair otherSlot =
        receiver.entityData otherPair otherSlot :=
    entityData_store (coherent.source_ne_target reads target)
  constructor
  · intro other
    rw [sameNewest]
    exact dated.whole other
  · rw [busy]
    exact dated.begun
  · rw [current]
    exact dated.current
  · intro value other index isNext
    obtain ⟨rfl, rfl, rfl⟩ := written value other index isNext
    exact entityData_store_self
  · exact fun value other isNext => absurd isNext (notAnnounced value other)
  · intro other
    rw [sameNewest]
    exact dated.bound other
  · intro value isCurrent other _
    rw [sameNewest]
    rw [current] at isCurrent
    exact dated.older value isCurrent other (wasNotAnnounced value other)
  · rw [sameFreshest, current]
    exact dated.fresh
  · exact dated.filled
  · exact dated.reads
  · exact dated.floor
  · rw [sameFreshest]
    exact dated.last
  · exact dated.unfilled
  · intro other reads
    rw [sameNewest]
    exact dated.chosen other reads
  · intro otherPair otherSlot reads
    have same := sameSource reads
    rw [sameFreshest]
    dsimp only
    rw [same]
    exact dated.source otherPair otherSlot reads
  · intro otherPair otherSlot other reads
    have source : receiver.reader.source = some (otherPair, otherSlot) := by
      change receiver.reader = _ at reads
      rw [reads]
      rfl
    exact (dated.copying otherPair otherSlot other reads).trans (sameSource source).symm
  · exact dated.recent
  · exact dated.ordered

theorem Dated.goOn (busy : writer.busy = receiver.writer.busy)
    (current : writer.current = receiver.writer.current)
    (notWritten : ∀ value pair slot, writer ≠ .slots value pair slot)
    (notAnnounced : ∀ value pair, writer ≠ .freshest value pair)
    (wasNotAnnounced : ∀ value pair, receiver.writer ≠ .freshest value pair) :
    Dated { receiver with writer } ledger :=
  { dated with
    begun := by rw [busy]; exact dated.begun
    current := by rw [current]; exact dated.current
    written := fun value pair slot isNext => absurd isNext (notWritten value pair slot)
    announced := fun value pair isNext => absurd isNext (notAnnounced value pair)
    older := fun value isCurrent pair _ =>
      dated.older value (current ▸ isCurrent) pair (wasNotAnnounced value pair)
    fresh := by rw [current]; exact dated.fresh }

theorem Dated.writeSlots (isAt : receiver.writer = .slots value pair slot) : Dated { receiver with
      slots := update receiver.slots pair slot
      writer := .freshest value pair } ledger := by
  have current : receiver.writer.current = some value := by rw [isAt]; rfl
  have older := dated.older value current
  have number := dated.current value current
  have newestSelf : ({ receiver with
      slots := update receiver.slots pair slot
      writer := .freshest value pair }).newest pair = .holds value := by
    simp only [newest, update_self]
    exact dated.written value pair slot isAt
  have newestOther {other : Fin 2} (different : other ≠ pair) : ({ receiver with
      slots := update receiver.slots pair slot
      writer := .freshest value pair }).newest other = receiver.newest other := by
    simp only [newest, update_of_ne different]
  have grows (other : Fin 2) : (receiver.newest other).number ≤ (({ receiver with
      slots := update receiver.slots pair slot
      writer := .freshest value pair }).newest other).number := by
    by_cases same : other = pair
    · rw [same, newestSelf]
      exact (dated.bound pair).trans number.ge
    · rw [newestOther same]
  have freshGrows := grows receiver.freshest
  constructor
  · intro other
    by_cases same : other = pair
    · rw [same, newestSelf]
      simp
    · rw [newestOther same]
      exact dated.whole other
  · have begun := dated.begun
    rw [isAt] at begun
    exact begun
  · rintro _ ⟨⟩
    exact number
  · exact nofun
  · rintro _ _ ⟨⟩
    exact newestSelf
  · intro other
    by_cases same : other = pair
    · rw [same, newestSelf]
      exact number.le
    · rw [newestOther same]
      exact dated.bound other
  · rintro _ ⟨⟩ other notThere
    have different : other ≠ pair := by
      rintro rfl
      exact notThere rfl
    rw [newestOther different]
    exact older other (by simp [isAt])
  · have fresh := dated.fresh
    rw [current] at fresh
    exact fresh.trans (Nat.add_le_add_right freshGrows 1)
  · exact dated.filled
  · exact dated.reads
  · exact dated.floor
  · exact dated.last.trans freshGrows
  · exact dated.unfilled
  · intro other reads
    obtain ⟨positive, floor, last⟩ := dated.chosen other reads
    exact ⟨positive.trans (grows other), floor.trans (grows other), last.trans (grows other)⟩
  · intro otherPair otherSlot reads
    obtain ⟨allowed, le⟩ := dated.source otherPair otherSlot reads
    exact ⟨allowed, le.trans freshGrows⟩
  · exact dated.copying
  · exact dated.recent
  · exact dated.ordered

theorem Dated.writeFreshest (isAt : receiver.writer = .freshest value pair) :
    Dated { receiver with freshest := pair, writer := .filled } ledger := by
  have current : receiver.writer.current = some value := by rw [isAt]; rfl
  have number : ({ receiver with freshest := pair, writer := .filled }).freshestNumber =
      ledger.begun := by
    have held : receiver.newest pair = .holds value := dated.announced value pair isAt
    change (receiver.newest pair).number = _
    rw [held]
    exact dated.current value current
  have grows : receiver.freshestNumber ≤ ledger.begun := dated.bound receiver.freshest
  exact { dated with
    begun := by
      have begun := dated.begun
      rw [isAt] at begun
      exact begun
    current := nofun
    written := nofun
    announced := nofun
    older := nofun
    fresh := number.ge
    last := (dated.last.trans grows).trans number.ge
    source := fun otherPair otherSlot reads =>
      (dated.source otherPair otherSlot reads).imp_right fun le =>
        (le.trans grows).trans number.ge }

theorem Dated.return (busy : receiver.writer.busy = true)
    (current : receiver.writer.current = none) :
    Dated { receiver with isFilledFirstTime := true, writer := .idle }
      { ledger with completed := ledger.completed + 1 } := by
  have begun := dated.begun
  rw [busy] at begun
  exact { dated with
    begun := begun
    current := nofun
    written := nofun
    announced := nofun
    older := nofun
    fresh := by
      have fresh := dated.fresh
      rw [current] at fresh
      exact fresh
    filled := by simp
    reads := fun _ => Nat.le_add_left 1 _
    floor := dated.floor.trans (Nat.le_add_right _ 1)
    last := dated.last
    unfilled := fun none => by cases none
    chosen := fun pair reads =>
      have allowed := dated.chosen pair reads
      ⟨allowed.positive, allowed.floor, allowed.last⟩
    source := fun pair slot reads =>
      have allowed := dated.source pair slot reads
      ⟨⟨allowed.1.positive, allowed.1.floor, allowed.1.last⟩, allowed.2⟩ }

theorem Dated.push (value : Value) (lookup : Except GxfResult Unit) :
    Dated (receiver.pushAbi (ledger.begun + 1, value) lookup).1 (ledger.note (.push value lookup)
        (receiver.pushAbi (ledger.begun + 1, value) lookup).2) := by
  unfold pushAbi
  split
  next isIdle =>
    have begun := dated.begun
    have fresh := dated.fresh
    rw [isIdle] at begun fresh
    exact { dated with
      begun := congrArg (· + 1) begun
      current := by
        rintro _ ⟨⟩
        rfl
      written := nofun
      announced := nofun
      bound := fun pair => (dated.bound pair).trans (Nat.le_add_right _ 1)
      older := fun _ _ pair _ => Nat.lt_succ_of_le (dated.bound pair)
      fresh := Nat.add_le_add_right fresh 1
      chosen := fun pair reads =>
        have allowed := dated.chosen pair reads
        ⟨allowed.positive, allowed.floor, allowed.last⟩
      source := fun pair slot reads =>
        have allowed := dated.source pair slot reads
        ⟨⟨allowed.1.positive, allowed.1.floor, allowed.1.last⟩, allowed.2⟩ }
  next => exact dated
  next => exact dated

theorem Dated.write (coherent : Coherent receiver) :
    Dated receiver.write.1 (ledger.note .write receiver.write.2) := by
  cases isAt : receiver.writer with
  | idle =>
      simp only [AsyncBufferReceiver.write, isAt]
      exact dated
  | reading | slot =>
      simp only [AsyncBufferReceiver.write, isAt]
      exact dated.goOn (by rw [isAt]; rfl) (by rw [isAt]; rfl) (by simp) (by simp) (by simp [isAt])
  | write value pair slot =>
      simp only [AsyncBufferReceiver.write, isAt]
      exact dated.store coherent (by rw [isAt]; rfl) (by rw [isAt]; rfl) (by rw [isAt]; rfl)
        (by simp)
        (by simp [isAt]) (by simp)
  | writing value pair slot =>
      simp only [AsyncBufferReceiver.write, isAt]
      refine dated.store coherent (by rw [isAt]; rfl) (by rw [isAt]; rfl) (by rw [isAt]; rfl)
        (by simp)
        (by simp [isAt]) ?_
      rintro _ _ _ ⟨⟩
      exact ⟨rfl, rfl, rfl⟩
  | slots value pair slot =>
      simp only [AsyncBufferReceiver.write, isAt]
      exact dated.writeSlots isAt
  | freshest value pair =>
      simp only [AsyncBufferReceiver.write, isAt]
      exact dated.writeFreshest isAt
  | filled =>
      simp only [AsyncBufferReceiver.write, isAt]
      split
      next isFilled =>
        have returned := dated.return (by rw [isAt]; rfl) (by rw [isAt]; rfl)
        rw [← isFilled] at returned
        exact returned
      next =>
        exact dated.goOn (by rw [isAt]; rfl) (by rw [isAt]; rfl) (by simp) (by simp)
          (by simp [isAt])
  | fill =>
      simp only [AsyncBufferReceiver.write, isAt]
      exact dated.return (by rw [isAt]; rfl) (by rw [isAt]; rfl)

theorem Dated.pop (isNull : Bool) :
    Dated (receiver.popAbi isNull).1 (ledger.note (.pop isNull) (receiver.popAbi isNull).2) := by
  unfold popAbi
  split
  next =>
    split
    next => exact dated
    next =>
      exact { dated with
        reads := nofun
        floor := le_refl _
        chosen := fun _ => nofun
        source := fun _ _ => nofun
        copying := nofun }
  next => exact dated

theorem Dated.rest (reads : reader.sure = true → 1 ≤ ledger.completed)
    (chosen : ∀ pair, reader = .reading pair ∨ reader = .slot pair →
      ledger.Allows (receiver.newest pair).number)
    (noSource : reader.source = none) : Dated { receiver with reader } ledger :=
  { dated with
    reads
    chosen
    source := fun pair slot isNext => by cases noSource.symm.trans isNext
    copying := fun pair slot content isNext => by
      change reader = _ at isNext
      rw [isNext] at noSource
      cases noSource }

/-- A pop has what it gets. -/
theorem Dated.sample {content : Option (Content (Nat × Value))}
    (recent : Sample.Recent (Sample.mk content ledger.floor))
    (newer : ledger.last ≤ (Sample.mk content ledger.floor).number)
    (le : (Sample.mk content ledger.floor).number ≤ receiver.freshestNumber)
    (unfilled : ledger.completed = 0 → (Sample.mk content ledger.floor).number = 0)
    (notChosen : reader = .idle ∨ ∃ content, reader = .count content) :
    Dated { receiver with reader }
      { ledger with samples := ⟨content, ledger.floor⟩ :: ledger.samples } := by
  have notReading (pair : Fin 2) : ¬(reader = .reading pair ∨ reader = .slot pair) := by
    obtain rfl | ⟨_, rfl⟩ := notChosen <;> simp
  have noSource : reader.source = none := by
    obtain rfl | ⟨_, rfl⟩ := notChosen <;> rfl
  exact { dated with
    reads := by obtain rfl | ⟨_, rfl⟩ := notChosen <;> exact nofun
    last := le
    unfilled
    chosen := fun pair isNext => absurd isNext (notReading pair)
    source := fun pair slot isNext => by cases noSource.symm.trans isNext
    copying := by obtain rfl | ⟨_, rfl⟩ := notChosen <;> exact nofun
    recent := List.forall_mem_cons.mpr ⟨recent, dated.recent⟩
    ordered := by
      refine List.pairwise_cons.mpr ⟨fun earlier before => ?_, dated.ordered⟩
      -- The last sample is the newest one so far.
      cases isList : ledger.samples with
      | nil => simp [isList] at before
      | cons latest rest =>
          have ordered := dated.ordered
          rw [isList] at before ordered
          have latestNewer : latest.number ≤ (Sample.mk content ledger.floor).number := by
            rw [Ledger.last, isList] at newer
            exact newer
          obtain rfl | later := List.mem_cons.mp before
          · exact latestNewer
          · exact ((List.pairwise_cons.mp ordered).1 earlier later).trans latestNewer }

end

variable [DecidableEq Value]

theorem Dated.read (dated : Dated receiver ledger) (coherent : Coherent receiver)
    (code : GxfResult) :
    Dated (receiver.read code).1 (ledger.note (.read code) (receiver.read code).2) := by
  cases isAt : receiver.reader with
  | idle =>
      simp only [AsyncBufferReceiver.read, isAt]
      exact dated
  | filled =>
      simp only [AsyncBufferReceiver.read, isAt]
      split
      next isFilled =>
        exact dated.rest (fun _ => dated.filled.mp isFilled) (fun _ => (by simp)) rfl
      next notFilled =>
        have none : ledger.completed = 0 := by
          have few := mt dated.filled.mpr notFilled
          omega
        refine dated.sample ?_ (dated.unfilled none).le (Nat.zero_le _) (fun _ => rfl) (.inl rfl)
        exact Nat.le_zero.mp (dated.floor.trans none.le)
  | freshest =>
      simp only [AsyncBufferReceiver.read, isAt]
      refine dated.rest (fun _ => dated.reads (by rw [isAt]; rfl)) ?_ rfl
      rintro pair (⟨⟨⟩⟩ | ⟨⟨⟩⟩)
      have completed := dated.completed_le
      exact ⟨(dated.reads (by rw [isAt]; rfl)).trans completed, dated.floor.trans completed,
        dated.last⟩
  | reading pair =>
      simp only [AsyncBufferReceiver.read, isAt]
      have next : Dated { receiver with reader := Reader.slot pair } ledger := by
        refine dated.rest (fun _ => dated.reads (by rw [isAt]; rfl)) ?_ rfl
        rintro other (⟨⟨⟩⟩ | ⟨⟨⟩⟩)
        exact dated.chosen pair (.inl isAt)
      exact { next with }
  | slot pair =>
      simp only [AsyncBufferReceiver.read, isAt]
      exact { dated with
        reads := fun _ => dated.reads (by rw [isAt]; rfl)
        chosen := fun _ => (by simp)
        source := by
          rintro _ _ ⟨⟩
          exact ⟨dated.chosen pair (.inr isAt), dated.newest_le coherent (by rw [isAt]; rfl)⟩
        copying := (by simp) }
  | copy pair slot =>
      simp only [AsyncBufferReceiver.read, isAt]
      exact { dated with
        reads := fun _ => dated.reads (by rw [isAt]; rfl)
        chosen := fun _ => (by simp)
        source := by
          rintro _ _ ⟨⟩
          exact dated.source pair slot (by rw [isAt]; rfl)
        copying := by
          rintro _ _ _ ⟨⟩
          rfl }
  | copying pair slot content =>
      simp only [AsyncBufferReceiver.read, isAt]
      have same := dated.copying pair slot content isAt
      obtain ⟨allowed, le⟩ := dated.source pair slot (by rw [isAt]; rfl)
      rw [← same] at allowed le ⊢
      rw [Content.copied, if_pos rfl]
      refine dated.sample ?_ allowed.last le (fun none => ?_) (.inr ⟨_, rfl⟩)
      · obtain ⟨value, holds⟩ := Content.holds_of_number allowed.positive
        exact ⟨_, value, holds, allowed.floor⟩
      · exact absurd (dated.reads (by rw [isAt]; rfl)) (by simp [none])
  | count content =>
      simp only [AsyncBufferReceiver.read, isAt]
      split <;> exact dated.rest (fun same => by cases same) (fun _ => (by simp)) rfl

/-- A receiver whose control variables and numbers are right. -/
structure Registered (pair : AsyncBufferReceiver (Nat × Value) × Ledger Value) : Prop where
  coherent : Coherent pair.1
  dated : Dated pair.1 pair.2

omit [DecidableEq Value] in
theorem Registered.init : Registered (numberedInit : _ × Ledger Value) := ⟨.init, .init⟩

theorem Registered.step {pair : AsyncBufferReceiver (Nat × Value) × Ledger Value}
    (registered : Registered pair) (op : Op Value) : Registered (numbered.step pair op).1 := by
  obtain ⟨coherent, dated⟩ := registered
  refine ⟨coherent.step _, ?_⟩
  cases op with
  | push value lookup => exact dated.push value lookup
  | write => exact dated.write coherent
  | pop isNull => exact dated.pop isNull
  | read code => exact dated.read coherent code

theorem Registered.run (ops : List (Op Value)) : Registered (numbered.run numberedInit ops) :=
  System.invariant_run_of_forall (fun _ op registered => registered.step op) .init ops

/-! ## Without numbers -/

section Erasure

variable {Other : Type}

def Content.map (f : Value → Other) : Content Value → Content Other
  | .null => .null
  | .torn => .torn
  | .holds value => .holds (f value)

def Reader.map (f : Value → Other) : Reader Value → Reader Other
  | .idle => .idle
  | .filled => .filled
  | .freshest => .freshest
  | .reading pair => .reading pair
  | .slot pair => .slot pair
  | .copy pair index => .copy pair index
  | .copying pair index content => .copying pair index (content.map f)
  | .count content => .count (content.map f)

def Writer.map (f : Value → Other) : Writer Value → Writer Other
  | .idle => .idle
  | .reading value => .reading (f value)
  | .slot value pair => .slot (f value) pair
  | .write value pair index => .write (f value) pair index
  | .writing value pair index => .writing (f value) pair index
  | .slots value pair index => .slots (f value) pair index
  | .freshest value pair => .freshest (f value) pair
  | .filled => .filled
  | .fill => .fill

def Report.map (f : Value → Other) : Report Value → Report Other
  | .blocked => .blocked
  | .progressed => .progressed
  | .pushed result => .pushed result
  | .sampled content => .sampled (content.map (Content.map f))
  | .popped result => .popped (result.map fun content => content.map (Content.map f))

/-- The same receiver with other values. -/
def map (f : Value → Other) (receiver : AsyncBufferReceiver Value) : AsyncBufferReceiver Other where
  entityData := fun pair slot => (receiver.entityData pair slot).map f
  freshest := receiver.freshest
  reading := receiver.reading
  slots := receiver.slots
  isFilledFirstTime := receiver.isFilledFirstTime
  reader := receiver.reader.map f
  writer := receiver.writer.map f

omit [DecidableEq Value] in
theorem map_store (f : Value → Other) (receiver : AsyncBufferReceiver Value) (pair slot : Fin 2)
    (content : Content Value) :
    (receiver.store pair slot content).map f =
    (receiver.map f).store pair slot (content.map f) := by
  have data : ∀ otherPair otherSlot,
      ((receiver.store pair slot content).entityData otherPair otherSlot).map f =
        ((receiver.map f).store pair slot (content.map f)).entityData otherPair otherSlot := by
    intro otherPair otherSlot
    by_cases same : (otherPair, otherSlot) = (pair, slot)
    · cases same
      rw [entityData_store_self, entityData_store_self]
    · rw [entityData_store same, entityData_store same]
      rfl
  simp only [map, store] at data ⊢
  congr 1
  funext otherPair otherSlot
  exact data otherPair otherSlot

omit [DecidableEq Value] in
theorem map_pushAbi (f : Value → Other) (receiver : AsyncBufferReceiver Value) (value : Value)
    (lookup : Except GxfResult Unit) :
    (receiver.map f).pushAbi (f value) lookup =
      ((receiver.pushAbi value lookup).1.map f, (receiver.pushAbi value lookup).2.map f) := by
  obtain ⟨entityData, freshest, reading, slots, isFilled, reader, writer⟩ := receiver
  cases writer <;> cases lookup <;> rfl

omit [DecidableEq Value] in
theorem map_popAbi (f : Value → Other) (receiver : AsyncBufferReceiver Value) (isNull : Bool) :
    (receiver.map f).popAbi isNull =
      ((receiver.popAbi isNull).1.map f, (receiver.popAbi isNull).2.map f) := by
  obtain ⟨entityData, freshest, reading, slots, isFilled, reader, writer⟩ := receiver
  cases reader <;> cases isNull <;> rfl

omit [DecidableEq Value] in
theorem map_write (f : Value → Other) (receiver : AsyncBufferReceiver Value) :
    (receiver.map f).write = (receiver.write.1.map f, receiver.write.2.map f) := by
  obtain ⟨entityData, freshest, reading, slots, isFilled, reader, writer⟩ := receiver
  cases writer with
  | write value pair slot =>
      have stored := map_store f ⟨entityData, freshest, reading, slots, isFilled, reader,
        .writing value pair slot⟩ pair slot .torn
      exact Prod.ext stored.symm rfl
  | writing value pair slot =>
      have stored := map_store f ⟨entityData, freshest, reading, slots, isFilled, reader,
        .slots value pair slot⟩ pair slot (.holds value)
      exact Prod.ext stored.symm rfl
  | filled => cases isFilled <;> rfl
  | _ => rfl

theorem map_read [DecidableEq Other] (f : Value → Other) (receiver : AsyncBufferReceiver Value)
    (code : GxfResult)
    (same : ∀ pair slot content, receiver.reader = .copying pair slot content →
      content = receiver.entityData pair slot) :
    (receiver.map f).read code = ((receiver.read code).1.map f, (receiver.read code).2.map f) := by
  obtain ⟨entityData, freshest, reading, slots, isFilled, reader, writer⟩ := receiver
  cases reader with
  | copying pair slot content =>
      have same := same pair slot content rfl
      dsimp only at same
      simp only [AsyncBufferReceiver.read, map, Reader.map, Content.copied, ← same, if_true]
      rfl
  | filled => cases isFilled <;> rfl
  | count content =>
      simp only [AsyncBufferReceiver.read, map, Reader.map]
      split <;> rfl
  | _ => rfl

theorem erase_step (dated : Dated receiver ledger) (op : Op Value) :
    system.step (receiver.map Prod.snd) op =
      ((system.step receiver (op.number ledger.begun)).1.map Prod.snd,
        (system.step receiver (op.number ledger.begun)).2.map Prod.snd) := by
  cases op with
  | push value lookup => exact map_pushAbi Prod.snd receiver (ledger.begun + 1, value) lookup
  | write => exact map_write Prod.snd receiver
  | pop isNull => exact map_popAbi Prod.snd receiver isNull
  | read code => exact map_read Prod.snd receiver code dated.copying

end Erasure

theorem erase_run (ops : List (Op Value)) {pair : AsyncBufferReceiver (Nat × Value) × Ledger Value}
    (registered : Registered pair) :
    system.run (pair.1.map Prod.snd) ops = (numbered.run pair ops).1.map Prod.snd ∧
      system.outputs (pair.1.map Prod.snd) ops =
        (numbered.outputs pair ops).map (Report.map Prod.snd) := by
  induction ops generalizing pair with
  | nil => exact ⟨rfl, rfl⟩
  | cons op rest ih =>
      have same := erase_step registered.dated op
      obtain ⟨states, answers⟩ := ih (registered.step op)
      constructor
      · rw [System.run_cons, System.run_cons, ← states, same]
        rfl
      · rw [System.outputs_cons, System.outputs_cons, List.map_cons, ← answers, same]
        rfl

/-- The receiver is a register for one writer and one reader, over all interleavings of their
accesses: they never access the same slot at the same time, and the pops get values that were
written completely, that are not older than the last push that had returned when the pop began,
and that are not older than what earlier pops got. -/
theorem four_slot_register (ops : List (Op Value)) :
    let pair := numbered.run numberedInit ops
    (system.run init ops = pair.1.map Prod.snd ∧
      system.outputs init ops = (numbered.outputs numberedInit ops).map (Report.map Prod.snd)) ∧
    (∀ source target, pair.1.reader.source = some source → pair.1.writer.target = some target →
      source ≠ target) ∧
    (∀ sample ∈ pair.2.samples, sample.Recent) ∧
    pair.2.samples.Pairwise fun later earlier => earlier.number ≤ later.number := by
  intro pair
  have registered : Registered pair := .run ops
  refine ⟨?_, fun _ _ => registered.coherent.source_ne_target, registered.dated.recent,
    registered.dated.ordered⟩
  have erased := erase_run ops (Registered.init : Registered (numberedInit : _ × Ledger Value))
  exact erased

/-- A pop begins while the second push is in the middle of its slot. -/
theorem four_slot_register_overlap :
    let ops : List (Op Nat) := [.push 7 (.ok ())] ++ .replicate 8 .write ++ [.push 8 (.ok ())] ++
      .replicate 3 .write ++ [.pop false] ++ .replicate 6 (.read .GXF_SUCCESS)
    let pair := numbered.run numberedInit ops
    pair.2.samples.map Sample.number = [1] ∧ ∀ sample ∈ pair.2.samples, sample.Recent := by
  intro ops pair
  exact ⟨by decide +kernel, (four_slot_register ops).2.2.1⟩

end AsyncBufferReceiver

end Gxf.Std
