import Gxf.Core.TypeRegistry

/-!
# Finding components

`findComponent` looks for the first component of a type from an offset on.  `findAll` calls
it again and again, and uses the offset that it gets back as the counter of its loop.
-/

namespace Gxf.Std

open Gxf.Core Gxf.Lib Relation

namespace EntityWarden

def isNullTid (tid : Tid) : Bool := tid.hash1 == 0 && tid.hash2 == 0

/-- Whether a component is of a type, as `findComponent` decides it.  There is no result if
`is_base` needs more than `depth` nested calls. -/
def isOfType (types : TypeRegistry) (depth : Nat) (tid : Tid) (component : ComponentItem) :
    Option Bool :=
  if isNullTid tid then some true
  else if component.tid = tid then some true
  else
    match types.isBase depth component.tid tid with
    | none => none
    | some (.error _) => some false
    | some (.ok isDerived) => some isDerived

/-- `std::find_if` over components, with the index of the first one. -/
def findIf (accept : ComponentItem → Option Bool) :
    Nat → List ComponentItem → Option (Option (Nat × ComponentItem))
  | _, [] => some none
  | index, component :: rest =>
      match accept component with
      | none => none
      | some true => some (some (index, component))
      | some false => findIf accept (index + 1) rest

/-- The part of the predicate of `findComponent` that compares names.  `names` are the names
in the parameter storage. -/
def isNamed (names : Uid → Except GxfResult String) (name : Option String)
    (component : ComponentItem) : Bool :=
  match name with
  | none => true
  | some name =>
      match names component.cid with
      | .error _ => false
      | .ok value => value == name

/-- The predicate of `findComponent`. -/
def accepts (types : TypeRegistry) (names : Uid → Except GxfResult String) (depth : Nat)
    (tid : Tid) (name : Option String) (component : ComponentItem) : Option Bool :=
  match isOfType types depth tid component with
  | none => none
  | some false => some false
  | some true => some (isNamed names name component)

/-- `GxfComponentPointer(cid)`: the component is looked up in the entity that the index knows
for it. -/
def componentPointer (warden : EntityWarden) (cid : Uid) : Except GxfResult Pointer :=
  match warden.components.lookup cid with
  | none => .error .GXF_ENTITY_NOT_FOUND
  | some entry =>
      match warden.entities.lookup entry.eid with
      | none => .error .GXF_ENTITY_NOT_FOUND
      | some item =>
          match item.components.find? fun component => component.cid == cid with
          | none => .error .GXF_ENTITY_COMPONENT_NOT_FOUND
          | some component => .ok component.rawPointer

/-- The end of `findComponent` where no component was found: a name may be known from the
interface of the entity. -/
def findInInterface (warden : EntityWarden) (item : EntityItem) (name : Option String) :
    Except GxfResult Uid :=
  match name.bind item.interface.lookup with
  | none => .error .GXF_ENTITY_COMPONENT_NOT_FOUND
  | some cid =>
      match warden.componentPointer cid with
      | .error _ => .error .GXF_ENTITY_COMPONENT_NOT_FOUND
      | .ok _ => .ok cid

/-- `findComponent(entity, tid, name, offset, cid)`: the new offset and the id. -/
def findComponent (warden : EntityWarden) (types : TypeRegistry)
    (names : Uid → Except GxfResult String) (depth : Nat) (item : EntityItem) (tid : Tid)
    (name : Option String) (offset : Option Int) : Option (Option Int × Except GxfResult Uid) :=
  let start := offset.getD 0
  if start < 0 then some (offset, .error .GXF_FAILURE)
  else if offset.isSome ∧ item.components.length ≤ start.toNat then
    some (offset, .error .GXF_ENTITY_COMPONENT_NOT_FOUND)
  else
    match findIf (accepts types names depth tid name) start.toNat
        (item.components.drop start.toNat) with
    | none => none
    | some none =>
        some (offset.map fun _ => item.components.length, warden.findInInterface item name)
    | some (some (index, component)) => some (offset.map fun _ => index, .ok component.cid)

/-- `GxfComponentFind(eid, tid, name, offset, cid)`. -/
def componentFind (warden : EntityWarden) (types : TypeRegistry)
    (names : Uid → Except GxfResult String) (depth : Nat) (eid : Uid) (tid : Tid)
    (name : Option String) (offset : Option Int) : Option (Option Int × Except GxfResult Uid) :=
  match warden.entities.lookup eid with
  | none => some (offset, .error .GXF_ENTITY_NOT_FOUND)
  | some item => warden.findComponent types names depth item tid name offset

/-- `Handle<T>`, without its context and type. -/
structure ComponentHandle where
  cid : Uid
  pointer : Pointer
  deriving DecidableEq, Repr

/-- `Handle<T>::Create(context, cid)`, for a type that is registered. -/
def createHandle (warden : EntityWarden) (cid : Uid) : Except GxfResult ComponentHandle :=
  (warden.componentPointer cid).map fun pointer => ⟨cid, pointer⟩

/-- The loop of `findAll`.  Every turn makes the offset larger, so that it comes to its end
after `capacity` turns. -/
def findAllFrom (warden : EntityWarden) (types : TypeRegistry)
    (names : Uid → Except GxfResult String) (depth : Nat) (eid : Uid) (tid : Tid)
    (capacity : Nat) : (turns : Nat) → (offset : Nat) → List ComponentHandle →
      Option (Except GxfResult (List ComponentHandle))
  | 0, _, components => some (.ok components)
  | turns + 1, offset, components =>
      if capacity ≤ offset then some (.ok components)
      else
        match warden.componentFind types names depth eid tid none (some offset) with
        | none => none
        | some (_, .error _) => some (.ok components)
        | some (found, .ok cid) =>
            match warden.createHandle cid with
            | .error code => some (.error code)
            | .ok handle =>
                if capacity ≤ components.length then
                  some (.error .GXF_EXCEEDING_PREALLOCATED_SIZE)
                else
                  findAllFrom warden types names depth eid tid capacity turns
                    ((found.getD offset).toNat + 1) (components ++ [handle])

/-- `findAll<T, N>()` with its `N` as `capacity`, and the name of `T`.  `findAllHeap<T, N>()`
differs in where the handles are stored. -/
def findAll (warden : EntityWarden) (types : TypeRegistry)
    (names : Uid → Except GxfResult String) (depth : Nat) (eid : Uid) (typename : String)
    (capacity : Nat) : Option (Except GxfResult (List ComponentHandle)) :=
  match types.idFromName typename with
  | .error code => some (.error code)
  | .ok tid => findAllFrom warden types names depth eid tid capacity capacity 0 []

def OfType (types : TypeRegistry) (tid : Tid) (component : ComponentItem) : Prop :=
  component.tid = tid ∨ TransGen types.Edge component.tid tid

open Classical in
/-- The components of a type, in the order they were added. -/
noncomputable def componentsOfType (types : TypeRegistry) (tid : Tid)
    (components : List ComponentItem) : List ComponentItem :=
  components.filter fun component => OfType types tid component

def handleOf (component : ComponentItem) : ComponentHandle := ⟨component.cid, component.rawPointer⟩

/-- The search returns exactly the components of a type, if there are not too many. -/
def FindsAll (warden : EntityWarden) (types : TypeRegistry)
    (names : Uid → Except GxfResult String) (eid : Uid) (typename : String) (tid : Tid)
    (components : List ComponentItem) (capacity : Nat) : Prop :=
  (componentsOfType types tid components).length ≤ capacity → ∃ depth, ∀ fuel, depth ≤ fuel →
      warden.findAll types names fuel eid typename capacity =
        some (.ok ((componentsOfType types tid components).map handleOf))

/-- The loop comes to all components of the type, and only to those: every one that others of
the type follow lies before the last offset.  For the null tid, which all components match,
those of the type are the ones at the first offsets. -/
def Reaches (types : TypeRegistry) (tid : Tid) (components : List ComponentItem)
    (capacity : Nat) : Prop :=
  ∀ before component rest, components = before ++ component :: rest →
    if isNullTid tid then OfType types tid component ↔ before.length < capacity
    else OfType types tid component → (∃ later ∈ rest, OfType types tid later) →
      before.length + 1 < capacity

section Visit

variable {Item : Type} (accept : Item → Prop) [DecidablePred accept] (capacity : Nat)

/-- The items that a loop comes to which starts a search at every offset below its capacity,
and goes on behind what it has found. -/
def visit : Nat → List Item → List Item
  | _, [] => []
  | index, item :: rest =>
      if accept item then
        item :: if index + 1 < capacity then visit (index + 1) rest else []
      else visit (index + 1) rest

/-- The same, from an offset on that may be too large. -/
def visitFrom (offset : Nat) (items : List Item) : List Item :=
  if offset < capacity then visit accept capacity offset items else []

variable {accept capacity}

theorem visit_sublist (index : Nat) (items : List Item) :
    (visit accept capacity index items).Sublist items := by
  induction items generalizing index with
  | nil => exact .slnil
  | cons item rest ih =>
      rw [visit]
      split_ifs
      · exact .cons_cons item (ih _)
      · exact .cons_cons item (List.nil_sublist rest)
      · exact .cons item (ih _)

theorem forall_places_cons (item : Item) (rest : List Item)
    (property : Nat → Item → List Item → Prop) :
    (∀ before found after, item :: rest = before ++ found :: after →
        property before.length found after) ↔
      property 0 item rest ∧ ∀ before found after, rest = before ++ found :: after →
        property (before.length + 1) found after := by
  constructor
  · intro places
    exact ⟨places [] item rest rfl, fun before found after split =>
      places (item :: before) found after (congrArg (item :: ·) split)⟩
  · rintro ⟨first, others⟩ before found after split
    cases before with
    | nil =>
        cases split
        exact first
    | cons head before =>
        cases split
        exact others before found after rfl

theorem visit_eq_filter_iff (index : Nat) (items : List Item) :
    visit accept capacity index items = items.filter (accept ·) ↔
      ∀ before item rest, items = before ++ item :: rest → accept item →
        (∃ later ∈ rest, accept later) → index + before.length + 1 < capacity := by
  induction items generalizing index with
  | nil =>
      refine iff_of_true rfl fun before item rest split => ?_
      exact absurd split.symm (List.append_ne_nil_of_right_ne_nil before (List.cons_ne_nil _ _))
  | cons item rest ih =>
      have places := forall_places_cons item rest fun place found after =>
        accept found → (∃ later ∈ after, accept later) → index + place + 1 < capacity
      rw [places, visit]
      have shift (place : Nat) : index + (place + 1) + 1 = index + 1 + place + 1 := by omega
      simp only [shift, ← ih (index + 1)]
      by_cases accepted : accept item
      · rw [if_pos accepted, List.filter_cons, if_pos (decide_eq_true accepted),
          List.cons_inj_right]
        split_ifs with room
        · exact (and_iff_right fun _ _ => room).symm
        · constructor
          · intro none
            have rejected := List.filter_eq_nil_iff.mp none.symm
            refine ⟨fun _ ⟨later, member, isAccepted⟩ =>
              absurd (decide_eq_true isAccepted) (rejected later member), ?_⟩
            apply (ih (index + 1)).mpr
            intro before found after split isAccepted
            have member : found ∈ rest := split ▸ List.mem_append_right before List.mem_cons_self
            exact absurd (decide_eq_true isAccepted) (rejected found member)
          · rintro ⟨first, -⟩
            symm
            apply List.filter_eq_nil_iff.mpr
            intro later member isTrue
            exact room (first accepted ⟨later, member, of_decide_eq_true isTrue⟩)
      · have isFalse : ¬ decide (accept item) = true := fun isTrue =>
          accepted (of_decide_eq_true isTrue)
        rw [if_neg accepted, List.filter_cons, if_neg isFalse]
        exact (and_iff_right fun isTrue => absurd isTrue accepted).symm

theorem visit_all_eq_filter_iff (wanted : Item → Prop) [DecidablePred wanted]
    (all : ∀ item, accept item) (index : Nat) (items : List Item) :
    visitFrom accept capacity index items = items.filter (wanted ·) ↔
      ∀ before item rest, items = before ++ item :: rest →
        (wanted item ↔ index + before.length < capacity) := by
  induction items generalizing index with
  | nil =>
      refine iff_of_true (ite_self []) fun before item rest split => ?_
      exact absurd split.symm (List.append_ne_nil_of_right_ne_nil before (List.cons_ne_nil _ _))
  | cons item rest ih =>
      have places := forall_places_cons item rest fun place found _ =>
        wanted found ↔ index + place < capacity
      have others : (∀ before found after, rest = before ++ found :: after →
          (wanted found ↔ index + (before.length + 1) < capacity)) ↔
            visitFrom accept capacity (index + 1) rest = rest.filter (wanted ·) := by
        rw [ih (index + 1)]
        refine forall₄_congr fun before found after split => ?_
        rw [Nat.add_comm before.length 1, ← Nat.add_assoc]
      rw [places, others, Nat.add_zero, visitFrom, visit, if_pos (all item), ← visitFrom,
        List.filter_cons]
      by_cases isWanted : wanted item
      · rw [if_pos (decide_eq_true isWanted)]
        split_ifs with room
        · rw [List.cons_inj_right]
          exact (and_iff_right (iff_of_true isWanted room)).symm
        · exact iff_of_false nofun fun both => room (both.1.mp isWanted)
      · have isFalse : ¬ decide (wanted item) = true := fun isTrue =>
          isWanted (of_decide_eq_true isTrue)
        rw [if_neg isFalse]
        split_ifs with room
        · refine iff_of_false (fun same => ?_) fun both => isWanted (both.1.mpr room)
          have member : item ∈ rest.filter (wanted ·) := same ▸ List.mem_cons_self
          exact isWanted (of_decide_eq_true (List.mem_filter.mp member).2)
        · have later : visitFrom accept capacity (index + 1) rest = [] :=
            if_neg fun inside => room (Nat.lt_of_succ_lt inside)
          rw [later]
          exact (and_iff_right (iff_of_false isWanted room)).symm

theorem visit_append (index : Nat) {before : List Item} (rest : List Item)
    (rejected : ∀ item ∈ before, ¬ accept item) :
    visit accept capacity index (before ++ rest) =
      visit accept capacity (index + before.length) rest := by
  induction before generalizing index with
  | nil => rfl
  | cons item before ih =>
      obtain ⟨first, others⟩ := List.forall_mem_cons.mp rejected
      rw [List.cons_append, visit, if_neg first, ih (index + 1) others, List.length_cons,
        Nat.add_comm before.length 1, Nat.add_assoc]

end Visit

section Loop

variable {accept : ComponentItem → Prop} [DecidablePred accept]
  {ask : ComponentItem → Option Bool} {components : List ComponentItem}

theorem findIf_cases (answers : ∀ component ∈ components, ask component =
      some (decide (accept component))) (index : Nat) :
    findIf ask index components = some none ∧ (∀ component ∈ components, ¬ accept component) ∨
      ∃ before component rest, components = before ++ component :: rest ∧
        (∀ other ∈ before, ¬ accept other) ∧ accept component ∧
        findIf ask index components = some (some (index + before.length, component)) := by
  induction components generalizing index with
  | nil => exact .inl ⟨rfl, nofun⟩
  | cons first others ih =>
      obtain ⟨answer, later⟩ := List.forall_mem_cons.mp answers
      rw [findIf, answer]
      by_cases accepted : accept first
      · rw [decide_eq_true accepted]
        exact .inr ⟨[], first, others, rfl, nofun, accepted, rfl⟩
      · rw [decide_eq_false accepted]
        rcases ih later (index + 1) with ⟨result, rejected⟩ | found
        · exact .inl ⟨result, List.forall_mem_cons.mpr ⟨accepted, rejected⟩⟩
        · obtain ⟨before, component, rest, rfl, rejected, isAccepted, result⟩ := found
          refine .inr ⟨first :: before, component, rest, rfl,
            List.forall_mem_cons.mpr ⟨accepted, rejected⟩, isAccepted, ?_⟩
          rw [List.length_cons, Nat.add_comm before.length 1, ← Nat.add_assoc]
          exact result

/-- The handles of some components, up to one that cannot be made. -/
def createAll (warden : EntityWarden) : List ComponentItem → Except GxfResult (List ComponentHandle)
  | [] => .ok []
  | component :: rest =>
      match warden.createHandle component.cid with
      | .error code => .error code
      | .ok handle => (createAll warden rest).map (handle :: ·)

variable {warden : EntityWarden} {types : TypeRegistry} {names : Uid → Except GxfResult String}
  {depth : Nat} {eid : Uid} {tid : Tid} {item : EntityItem} {capacity : Nat}

theorem componentFind_cases (stored : warden.entities.lookup eid = some item)
    (names : Uid → Except GxfResult String) (answers : ∀ component ∈ item.components,
      isOfType types depth tid component = some (decide (accept component))) (offset : Nat)
    (inside : offset < capacity) :
    (∃ next code, warden.componentFind types names depth eid tid none (some offset) =
        some (next, .error code) ∧
      visitFrom accept capacity offset (item.components.drop offset) = []) ∨
      ∃ index component, offset ≤ index ∧
        warden.componentFind types names depth eid tid none (some offset) =
          some (some (Int.ofNat index), .ok component.cid) ∧
        visitFrom accept capacity offset (item.components.drop offset) =
          component :: visitFrom accept capacity (index + 1)
          (item.components.drop (index + 1)) := by
  have offered (component : ComponentItem) (member : component ∈ item.components.drop offset) :
      accepts types names depth tid none component = some (decide (accept component)) := by
    rw [accepts, answers component (List.mem_of_mem_drop member)]
    cases decide (accept component) <;> rfl
  rw [componentFind, stored, visitFrom, if_pos inside]
  dsimp only
  have notNegative : ¬ (offset : Int) < 0 := Int.not_lt.mpr (Int.natCast_nonneg offset)
  simp only [findComponent, Option.getD_some, if_neg notNegative, Option.isSome_some, true_and,
    Int.toNat_natCast]
  split_ifs with outside
  · refine .inl ⟨_, _, rfl, ?_⟩
    rw [List.drop_eq_nil_iff.mpr outside]
    rfl
  · rcases findIf_cases offered offset with ⟨result, rejected⟩ | found
    · rw [result]
      refine .inl ⟨_, _, rfl, ?_⟩
      have passed : visit accept capacity offset (item.components.drop offset ++ []) = [] :=
        visit_append offset [] rejected
      rw [List.append_nil] at passed
      exact passed
    · obtain ⟨before, component, rest, split, rejected, accepted, result⟩ := found
      rw [result]
      refine .inr ⟨offset + before.length, component, Nat.le_add_right _ _, rfl, ?_⟩
      have behind : item.components.drop (offset + before.length + 1) = rest := by
        rw [Nat.add_assoc, ← List.drop_drop, split, List.drop_append,
          List.drop_eq_nil_of_le (Nat.le_succ _), Nat.add_sub_cancel_left]
        rfl
      rw [split, visit_append offset _ rejected, visit, if_pos accepted, behind]
      rfl

theorem findAllFrom_eq (stored : warden.entities.lookup eid = some item)
    (answers : ∀ component ∈ item.components,
      isOfType types depth tid component = some (decide (accept component)))
    (turns offset : Nat) (handles : List ComponentHandle) (enough : capacity ≤ offset + turns)
    (room : handles.length ≤ offset) :
    warden.findAllFrom types names depth eid tid capacity turns offset handles =
      some ((warden.createAll
        (visitFrom accept capacity offset (item.components.drop offset))).map (handles ++ ·)) := by
  have ended (offset : Nat) (isEnd : capacity ≤ offset) :
      visitFrom accept capacity offset (item.components.drop offset) = [] :=
    if_neg (Nat.not_lt.mpr isEnd)
  induction turns generalizing offset handles with
  | zero =>
      rw [findAllFrom, ended offset enough, createAll, Except.map, List.append_nil]
  | succ turns ih =>
      rw [findAllFrom]
      by_cases isEnd : capacity ≤ offset
      · rw [if_pos isEnd, ended offset isEnd, createAll, Except.map, List.append_nil]
      · have inside := Nat.not_le.mp isEnd
        rw [if_neg isEnd]
        rcases componentFind_cases stored names answers offset inside with
          ⟨next, code, result, nothing⟩ | ⟨index, component, further, result, next⟩
        · rw [result, nothing, createAll, Except.map, List.append_nil]
        · rw [result, next, createAll]
          dsimp only
          cases warden.createHandle component.cid with
          | error code => rfl
          | ok handle =>
              dsimp only
              rw [if_neg (Nat.not_le.mpr (Nat.lt_of_le_of_lt room inside))]
              have longer : (handles ++ [handle]).length ≤ index + 1 := by
                rw [List.length_append]
                exact Nat.add_le_add_right (Nat.le_trans room further) 1
              have further : capacity ≤ index + 1 + turns := by omega
              rw [Option.getD_some, Int.ofNat_eq_natCast, Int.toNat_natCast,
                ih (index + 1) (handles ++ [handle]) further longer]
              cases warden.createAll (visitFrom accept capacity (index + 1)
                (item.components.drop (index + 1))) with
              | error code => rfl
              | ok others =>
                  dsimp only [Except.map]
                  rw [List.append_assoc, List.singleton_append]

end Loop

/-! ## All components of a type -/

variable {warden : EntityWarden} {types : TypeRegistry} {names : Uid → Except GxfResult String}
  {eid : Uid} {typename : String} {tid : Tid} {item : EntityItem} {capacity : Nat}
  {components visited wanted : List ComponentItem}

theorem cid_of_createHandle {cid : Uid} {handle : ComponentHandle}
    (created : warden.createHandle cid = .ok handle) : handle.cid = cid := by
  rw [createHandle] at created
  cases pointer : warden.componentPointer cid with
  | error code =>
      rw [pointer] at created
      cases created
  | ok address =>
      rw [pointer] at created
      cases created
      rfl

theorem cids_of_createAll {handles : List ComponentHandle}
    (created : createAll warden visited = .ok handles) :
    handles.map ComponentHandle.cid = visited.map ComponentItem.cid := by
  induction visited generalizing handles with
  | nil =>
      cases created
      rfl
  | cons first rest ih =>
      rw [createAll] at created
      split at created
      · cases created
      · case _ handle isFirst =>
          cases others : createAll warden rest with
          | error code =>
              rw [others] at created
              cases created
          | ok later =>
              rw [others] at created
              cases created
              rw [List.map_cons, List.map_cons, cid_of_createHandle isFirst, ih others]

theorem createAll_eq_map_iff : createAll warden visited = .ok (visited.map handleOf) ↔
      ∀ component ∈ visited, warden.createHandle component.cid = .ok (handleOf component) := by
  induction visited with
  | nil => exact iff_of_true rfl nofun
  | cons first rest ih =>
      rw [createAll, List.forall_mem_cons, ← ih, List.map_cons]
      cases warden.createHandle first.cid with
      | error code => exact iff_of_false nofun fun both => nomatch both.1
      | ok handle =>
          dsimp only
          cases createAll warden rest with
          | error code => exact iff_of_false nofun fun both => nomatch both.2
          | ok later =>
              rw [Except.map, Except.ok.injEq, Except.ok.injEq, Except.ok.injEq, List.cons.injEq]

theorem eq_of_cids (distinct : (components.map ComponentItem.cid).Nodup)
    (inVisited : ∀ component ∈ visited, component ∈ components)
    (inWanted : ∀ component ∈ wanted, component ∈ components)
    (same : visited.map ComponentItem.cid = wanted.map ComponentItem.cid) : visited = wanted := by
  induction visited generalizing wanted with
  | nil => exact (List.map_eq_nil_iff.mp same.symm).symm
  | cons first rest ih =>
      cases wanted with
      | nil => cases same
      | cons other others =>
          rw [List.map_cons, List.map_cons, List.cons.injEq] at same
          obtain ⟨firstIn, restIn⟩ := List.forall_mem_cons.mp inVisited
          obtain ⟨otherIn, othersIn⟩ := List.forall_mem_cons.mp inWanted
          rw [List.inj_on_of_nodup_map distinct firstIn otherIn same.1, ih restIn othersIn same.2]

theorem createAll_eq_iff (distinct : (components.map ComponentItem.cid).Nodup)
    (inVisited : ∀ component ∈ visited, component ∈ components)
    (inWanted : ∀ component ∈ wanted, component ∈ components) :
    createAll warden visited = .ok (wanted.map handleOf) ↔ visited = wanted ∧
        ∀ component ∈ wanted, warden.createHandle component.cid = .ok (handleOf component) := by
  constructor
  · intro created
    have same := cids_of_createAll created
    rw [List.map_map] at same
    obtain rfl := eq_of_cids distinct inVisited inWanted same.symm
    exact ⟨rfl, createAll_eq_map_iff.mp created⟩
  · rintro ⟨rfl, created⟩
    exact createAll_eq_map_iff.mpr created

theorem isOfType_eq (sound : types.Sound) (isKnown : tid ∈ types.names)
    (registered : ∀ component ∈ components, component.tid ∈ types.names)
    [∀ component, Decidable (isNullTid tid = true ∨ OfType types tid component)] :
    ∃ depth, ∀ fuel, depth ≤ fuel → ∀ component ∈ components, isOfType types fuel tid component =
        some (decide (isNullTid tid = true ∨ OfType types tid component)) := by
  classical
  obtain ⟨depth, answers⟩ := sound.isBase_eq
  refine ⟨depth, fun fuel enough component member => ?_⟩
  rw [isOfType]
  split_ifs with isNull same
  · rw [decide_eq_true (.inl isNull)]
  · rw [decide_eq_true (.inr (.inl same))]
  · rw [answers fuel enough component.tid (registered component member) tid isKnown]
    refine congrArg some (decide_eq_decide.mpr ?_)
    rw [or_iff_right isNull, OfType, or_iff_right same]

theorem visitFrom_eq_iff
    [DecidablePred fun component => isNullTid tid = true ∨ OfType types tid component]
    (fits : (componentsOfType types tid components).length ≤ capacity) :
    visitFrom (fun component => isNullTid tid = true ∨ OfType types tid component) capacity 0
        components = componentsOfType types tid components ↔
      Reaches types tid components capacity := by
  classical
  rcases Bool.eq_false_or_eq_true (isNullTid tid) with isNull | isNull
  · refine (visit_all_eq_filter_iff (OfType types tid)
      (fun component => .inl isNull) 0 components).trans ?_
    simp only [Reaches, isNull, if_true, Nat.zero_add]
  · have same (component : ComponentItem) :
        (isNullTid tid = true ∨ OfType types tid component) ↔ OfType types tid component :=
      or_iff_right fun isTrue => Bool.false_ne_true (isNull.symm.trans isTrue)
    have filtered : componentsOfType types tid components =
        components.filter fun component => isNullTid tid = true ∨ OfType types tid component :=
      List.filter_congr fun component _ => decide_eq_decide.mpr (same component).symm
    have reached : Reaches types tid components capacity ↔
        ∀ before component rest, components = before ++ component :: rest →
          (isNullTid tid = true ∨ OfType types tid component) →
            (∃ later ∈ rest, isNullTid tid = true ∨ OfType types tid later) →
              0 + before.length + 1 < capacity := by
      simp only [Reaches, isNull, Nat.zero_add, Bool.false_eq_true, if_false, false_or]
    rw [reached, filtered, visitFrom, ← visit_eq_filter_iff]
    split_ifs with positive
    · exact Iff.rfl
    · -- without capacity there is nothing to be found
      rw [Nat.eq_zero_of_not_pos positive, filtered] at fits
      have nothing := List.eq_nil_of_length_eq_zero (Nat.le_zero.mp fits)
      rw [nothing]
      refine iff_of_true rfl (((visit_eq_filter_iff 0 components).mpr ?_).trans nothing)
      intro before component rest split accepted
      have member : component ∈ components := split ▸ List.mem_append_right before
        List.mem_cons_self
      exact absurd (decide_eq_true accepted) (List.filter_eq_nil_iff.mp nothing _ member)

/-- `findAll` returns exactly the components of a type, if there are not too many, unless it
does not reach one of them, or the handle of one cannot be made. -/
theorem findsAll_iff (sound : types.Sound) (isType : types.tids.lookup typename = some tid)
    (stored : warden.entities.lookup eid = some item)
    (registered : ∀ component ∈ item.components, component.tid ∈ types.names)
    (distinct : (item.components.map ComponentItem.cid).Nodup) :
    warden.FindsAll types names eid typename tid item.components capacity ↔
      capacity < (componentsOfType types tid item.components).length ∨
        Reaches types tid item.components capacity ∧
          ∀ component ∈ componentsOfType types tid item.components,
            warden.createHandle component.cid = .ok (handleOf component) := by
  classical
  obtain ⟨depth, answers⟩ := isOfType_eq sound (sound.tids typename tid isType) registered
  have result (fuel : Nat) (enough : depth ≤ fuel) :
      warden.findAll types names fuel eid typename capacity = some (createAll warden
        (visitFrom (fun component => isNullTid tid = true ∨ OfType types tid component) capacity 0
          item.components)) := by
    rw [findAll, TypeRegistry.idFromName_eq_ok_iff.mpr isType]
    dsimp only
    rw [findAllFrom_eq stored (answers fuel enough) capacity 0 [] (Nat.le_add_left _ _) le_rfl,
      List.drop_zero]
    cases createAll warden _ <;> rfl
  by_cases fits : (componentsOfType types tid item.components).length ≤ capacity
  · have inVisited (component : ComponentItem) (member : component ∈ visitFrom
        (fun component => isNullTid tid = true ∨ OfType types tid component) capacity 0
          item.components) : component ∈ item.components := by
      rw [visitFrom] at member
      split_ifs at member
      · exact (visit_sublist 0 item.components).subset member
      · cases member
    have inWanted (component : ComponentItem)
        (member : component ∈ componentsOfType types tid item.components) :
        component ∈ item.components := List.mem_of_mem_filter member
    rw [or_iff_right (Nat.not_lt.mpr fits), ← visitFrom_eq_iff fits,
      ← createAll_eq_iff distinct inVisited inWanted]
    constructor
    · intro finds
      obtain ⟨enough, returns⟩ := finds fits
      have returned := returns (max enough depth) (Nat.le_max_left _ _)
      rw [result _ (Nat.le_max_right _ _)] at returned
      exact Option.some.inj returned
    · intro created _
      refine ⟨depth, fun fuel enough => ?_⟩
      rw [result fuel enough, created]
  · exact iff_of_true (fun few => absurd few fits) (.inl (Nat.not_le.mp fits))

theorem componentsOfType_of_no_bases (noBases : types.bases = ∅) :
    componentsOfType types tid components =
      components.filter fun component => component.tid = tid := by
  refine List.filter_congr fun component _ => decide_eq_decide.mpr (or_iff_left ?_)
  intro path
  obtain ⟨middle, ⟨set, stored, -⟩, -⟩ := TransGen.head'_iff.mp path
  rw [noBases] at stored
  cases stored

/-- Two components of the type behind another one are found when there is room for three. -/
theorem findsAll_two :
    let types := (TypeRegistry.created.register ⟨⟨1, 1⟩, "T", none⟩).1
    let components : List ComponentItem :=
      [⟨10, kComponentTid, 100, none⟩, ⟨11, ⟨1, 1⟩, 101, none⟩, ⟨12, ⟨1, 1⟩, 102, none⟩]
    let warden := components.foldl (fun warden component =>
      (warden.addComponent 5 component).warden) ((fresh 1).create 5 "entity").warden
    warden.FindsAll types (fun _ => .error .GXF_PARAMETER_NOT_FOUND) 5 "T" ⟨1, 1⟩ components 3 := by
  intro types components warden
  have sound : types.Sound := TypeRegistry.sound_created.register ⟨⟨1, 1⟩, "T", none⟩ (by decide)
  have ofType : componentsOfType types ⟨1, 1⟩ components =
      [⟨11, ⟨1, 1⟩, 101, none⟩, ⟨12, ⟨1, 1⟩, 102, none⟩] :=
    componentsOfType_of_no_bases rfl
  have stored : warden.entities.lookup 5 =
      some ⟨.kUninitialized, 5, components, ∅, 1⟩ := rfl
  refine (findsAll_iff sound rfl stored ?_ (by decide)).mpr (.inr ⟨?_, ?_⟩)
  · exact List.forall_iff_forall_mem.mp (by decide)
  · intro before component rest split
    rw [if_neg (by decide)]
    rintro - ⟨later, member, -⟩
    have lengths : 3 = before.length + (rest.length + 1) :=
      (congrArg List.length split).trans List.length_append
    have positive := List.length_pos_of_mem member
    omega
  · rw [ofType]
    exact List.forall_iff_forall_mem.mp ⟨rfl, rfl⟩

/-- Two components of the type at the offsets 1 and 2: the second one is not found, because
the loop ends at the offset 2. -/
theorem second_component_not_reached :
    let types := (TypeRegistry.created.register ⟨⟨1, 1⟩, "T", none⟩).1
    let components : List ComponentItem :=
      [⟨10, kComponentTid, 100, none⟩, ⟨11, ⟨1, 1⟩, 101, none⟩, ⟨12, ⟨1, 1⟩, 102, none⟩]
    let warden := components.foldl (fun warden component =>
      (warden.addComponent 5 component).warden) ((fresh 1).create 5 "entity").warden
    let names : Uid → Except GxfResult String := fun _ => .error .GXF_PARAMETER_NOT_FOUND
    (warden.entities.lookup 5).map EntityItem.components = some components ∧
      warden.findAll types names 1 5 "T" 2 = some (.ok [⟨11, 101⟩]) ∧
      ¬ warden.FindsAll types names 5 "T" ⟨1, 1⟩ components 2 := by
  intro types components warden names
  have ofType : componentsOfType types ⟨1, 1⟩ components =
      [⟨11, ⟨1, 1⟩, 101, none⟩, ⟨12, ⟨1, 1⟩, 102, none⟩] :=
    componentsOfType_of_no_bases rfl
  refine ⟨rfl, rfl, fun finds => ?_⟩
  rw [FindsAll, ofType] at finds
  obtain ⟨depth, returns⟩ := finds le_rfl
  have found : warden.findAll types names (depth + 1) 5 "T" 2 = some (.ok [⟨11, 101⟩]) := rfl
  rw [returns (depth + 1) (Nat.le_succ depth)] at found
  cases found

end EntityWarden

end Gxf.Std
