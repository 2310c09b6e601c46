import Gxf.Lib.Combining
import Gxf.Std.EntityExecutor.EntityItem
import Gxf.Std.SchedulingTerms.Combination

/-!
# The order of checks

The condition of an entity does not depend on the order of its terms, of its combiners and of the
terms in a combiner.
-/

namespace Gxf.Std.EntityItem

open Gxf.Core Gxf.Lib SchedulingCondition Function

/-- What a term answers to a check, where `answer` gives the answers of terms of other kinds. -/
def verdict (components : Uid → SchedulingTerm) (timestamp : Int)
    (answer : Uid → SchedulingCondition) (term : Uid) : SchedulingCondition :=
  match components term with
  | .count term => term.updateState.checkAbi
  | .periodic term => term.checkAbi timestamp
  | .other => answer term

/-- Every check succeeds, and a term answers the same wherever it stands. -/
structure Answers (environment : Environment) (item : EntityItem)
    (answer : Uid → SchedulingCondition) : Prop where
  combined : ∀ index combiner, item.combiners[index]? = some combiner →
    ∀ position term, combiner.termList[position]? = some term →
      environment.check index position = .ok (answer term)
  free : ∀ position term, item.terms[position]? = some term →
    environment.check item.combiners.length position = .ok (answer term)

def OrCombined (item : EntityItem) : Prop :=
  ∀ combiner ∈ item.combiners, combiner.combine = orCombine ∧ combiner.termList ≠ []

def SameTerms (combiner image : SchedulingTermCombiner) : Prop :=
  image.combine = combiner.combine ∧ combiner.termList.Perm image.termList

/-- An item with the same terms and combiners in another order. -/
structure Reordered (item other : EntityItem) : Prop where
  components : other.components = item.components
  terms : item.terms.Perm other.terms
  combiners : ∃ matched,
    List.Forall₂ SameTerms item.combiners matched ∧ matched.Perm other.combiners

variable {environment : Environment} {timestamp : Int} {answer : Uid → SchedulingCondition}
  {components : Uid → SchedulingTerm}

theorem check_verdict (components : Uid → SchedulingTerm) (timestamp : Int)
    (answer : Uid → SchedulingCondition) (term : Uid) :
    ((components term).check timestamp (.ok (answer term))).2 =
        .ok (verdict components timestamp answer term) ∧
      verdict (update components term
        ((components term).check timestamp (.ok (answer term))).1) timestamp answer =
          verdict components timestamp answer := by
  have same : ∀ after : SchedulingTerm,
      verdict (update components term after) timestamp answer term =
        verdict components timestamp answer term →
      verdict (update components term after) timestamp answer =
        verdict components timestamp answer := by
    intro after here
    funext other
    by_cases isTerm : other = term
    · rw [isTerm]
      exact here
    · rw [verdict, verdict, update_of_ne isTerm]
  cases kind : components term with
  | count count =>
      refine ⟨by rw [verdict, kind]; rfl, same _ ?_⟩
      rw [verdict, verdict, update_self, kind]
      -- a second update finds the state of the first one
      simp only [SchedulingTerm.check, CountSchedulingTerm.updateState]
      split <;> simp_all
  | periodic | other =>
      refine ⟨by rw [verdict, kind]; rfl, same _ ?_⟩
      rw [verdict, verdict, update_self, kind]
      rfl

theorem checkTerms_fold (list position : Nat) {terms : List Uid}
    {combine : Nat → SchedulingCondition → SchedulingCondition → SchedulingCondition}
    {operation : SchedulingCondition → SchedulingCondition → SchedulingCondition}
    (later : ∀ place, position ≤ place → combine place = operation)
    (answers : ∀ offset term, terms[offset]? = some term →
      environment.check list (position + offset) = .ok (answer term))
    (components : Uid → SchedulingTerm) (combined : SchedulingCondition) :
    ∃ after, checkTerms environment timestamp list combine position terms components combined =
        (after, .ok ((terms.map (verdict components timestamp answer)).foldl operation combined)) ∧
      verdict after timestamp answer = verdict components timestamp answer := by
  induction terms generalizing position components combined with
  | nil => exact ⟨components, rfl, rfl⟩
  | cons term rest ih =>
      have isAnswer : environment.check list position = .ok (answer term) := answers 0 term rfl
      obtain ⟨isVerdict, unchanged⟩ := check_verdict components timestamp answer term
      obtain ⟨after, folded, stillUnchanged⟩ := ih (position + 1)
        (fun place behind => later place (by omega))
        (fun offset other isOther => by
          rw [Nat.add_assoc, Nat.add_comm 1]
          exact answers (offset + 1) other isOther)
        (update components term ((components term).check timestamp (.ok (answer term))).1)
        (combine position combined (verdict components timestamp answer term))
      refine ⟨after, ?_, stillUnchanged.trans unchanged⟩
      rw [checkTerms]
      simp only [isAnswer, isVerdict]
      rw [folded, unchanged, later position (Nat.le_refl position)]
      rfl

/-- What a combiner makes of its terms. -/
def summary (verdict : Uid → SchedulingCondition) (combiner : SchedulingTermCombiner) :
    SchedulingCondition :=
  foldFirst combiner.combine ⟨.READY, 0⟩ (combiner.termList.map verdict)

theorem checkTerms_summary (index : Nat) {combiner : SchedulingTermCombiner}
    (nonempty : combiner.termList ≠ [])
    (answers : ∀ position term, combiner.termList[position]? = some term →
      environment.check index position = .ok (answer term))
    (components : Uid → SchedulingTerm) (initial : SchedulingCondition) :
    ∃ after, checkTerms environment timestamp index (fun position combined result =>
          if position = 0 then result else combiner.combine combined result)
        0 combiner.termList components initial =
          (after, .ok (summary (verdict components timestamp answer) combiner)) ∧
      verdict after timestamp answer = verdict components timestamp answer := by
  obtain ⟨first, others, isList⟩ := List.exists_cons_of_ne_nil nonempty
  rw [isList] at answers ⊢
  obtain ⟨isVerdict, unchanged⟩ := check_verdict components timestamp answer first
  have later : ∀ place, 1 ≤ place → (fun (combined result : SchedulingCondition) =>
      if place = 0 then result else combiner.combine combined result) = combiner.combine := by
    intro place behind
    funext combined result
    exact if_neg (Nat.ne_of_gt behind)
  obtain ⟨after, folded, stillUnchanged⟩ := checkTerms_fold index 1 later
    (fun offset term isTerm => by
      rw [Nat.add_comm]
      exact answers (offset + 1) term isTerm)
    (update components first
      ((components first).check timestamp (.ok (answer first))).1)
    (verdict components timestamp answer first)
  refine ⟨after, ?_, stillUnchanged.trans unchanged⟩
  rw [checkTerms]
  simp only [answers 0 first rfl, isVerdict, if_true]
  rw [folded, unchanged, summary, isList]
  rfl

variable {combiners matched : List SchedulingTermCombiner}

theorem checkCombiners_fold (index : Nat)
    (nonempty : ∀ combiner ∈ combiners, combiner.termList ≠ [])
    (answers : ∀ offset combiner, combiners[offset]? = some combiner →
      ∀ position term, combiner.termList[position]? = some term →
        environment.check (index + offset) position = .ok (answer term))
    (components : Uid → SchedulingTerm) (combined : SchedulingCondition) :
    ∃ after, checkCombiners environment timestamp index combiners components combined =
        (after, .ok ((combiners.map (summary (verdict components timestamp answer))).foldl
          andCombine combined)) ∧
      verdict after timestamp answer = verdict components timestamp answer := by
  induction combiners generalizing index components combined with
  | nil => exact ⟨components, rfl, rfl⟩
  | cons combiner rest ih =>
      obtain ⟨middle, isSummary, unchanged⟩ := checkTerms_summary index
        (nonempty combiner (List.mem_cons_self ..)) (answers 0 combiner rfl) components
        (environment.combinerResult index)
      obtain ⟨after, folded, stillUnchanged⟩ := ih (index + 1)
        (fun other member => nonempty other (List.mem_cons_of_mem _ member))
        (fun offset other isOther => by
          rw [Nat.add_assoc, Nat.add_comm 1]
          exact answers (offset + 1) other isOther)
        middle (combined.andCombine (summary (verdict components timestamp answer) combiner))
      refine ⟨after, ?_, stillUnchanged.trans unchanged⟩
      rw [checkCombiners, isSummary]
      dsimp only
      rw [folded, unchanged]
      rfl

theorem check_fold {item : EntityItem} (orCombined : OrCombined item)
    (answers : Answers environment item answer) (timestamp : Int) :
    (item.check environment timestamp).2 =
      .ok ((item.terms.map (verdict item.components timestamp answer)).foldl
        andCombine
        ((item.combiners.map (summary (verdict item.components timestamp answer))).foldl
          andCombine ⟨.READY, 0⟩)) := by
  obtain ⟨middle, combined, unchanged⟩ := checkCombiners_fold 0
    (fun combiner member => (orCombined combiner member).2)
    (fun offset combiner isCombiner => by
      rw [Nat.zero_add]
      exact answers.combined offset combiner isCombiner) item.components ⟨.READY, 0⟩
  obtain ⟨after, folded, _⟩ := checkTerms_fold item.combiners.length 0 (fun _ _ => rfl)
    (fun offset term isTerm => by
      rw [Nat.zero_add]
      exact answers.free offset term isTerm) middle
    ((item.combiners.map (summary (verdict item.components timestamp answer))).foldl
      andCombine ⟨.READY, 0⟩)
  rw [unchanged] at folded
  rw [check]
  dsimp only
  rw [combined]
  dsimp only
  rw [folded]

theorem summary_reordered (verdict : Uid → SchedulingCondition)
    (pairs : List.Forall₂ SameTerms combiners matched)
    (orCombined : ∀ combiner ∈ combiners, combiner.combine = orCombine) :
    combiners.map (summary verdict) = matched.map (summary verdict) := by
  induction pairs with
  | nil => rfl
  | cons head _ ih =>
      obtain ⟨isOr, others⟩ := List.forall_mem_cons.mp orCombined
      rw [List.map_cons, List.map_cons, ih others, summary, summary, head.1, isOr,
        foldFirst_perm _ (head.2.map verdict)]

theorem orCombined_reordered (pairs : List.Forall₂ SameTerms combiners matched)
    (orCombined : ∀ combiner ∈ combiners, combiner.combine = orCombine ∧ combiner.termList ≠ []) :
    ∀ combiner ∈ matched, combiner.combine = orCombine ∧ combiner.termList ≠ [] := by
  induction pairs with
  | nil => exact fun combiner member => by cases member
  | cons head _ ih =>
      obtain ⟨⟨isOr, nonempty⟩, others⟩ := List.forall_mem_cons.mp orCombined
      refine List.forall_mem_cons.mpr ⟨⟨head.1.trans isOr, fun isNil => nonempty ?_⟩, ih others⟩
      have sameTerms := head.2
      rw [isNil] at sameTerms
      exact sameTerms.eq_nil

/-- The condition of an entity does not depend on the order of its terms and combiners, since both
ways to combine conditions are commutative and associative. -/
theorem check_reordered {item other : EntityItem} {environment otherEnvironment : Environment}
    {answer : Uid → SchedulingCondition} (reordered : Reordered item other)
    (orCombined : OrCombined item) (answers : Answers environment item answer)
    (otherAnswers : Answers otherEnvironment other answer) (timestamp : Int) :
    (∃ condition, (item.check environment timestamp).2 = .ok condition ∧
        (other.check otherEnvironment timestamp).2 = .ok condition) ∧
      (∀ first second, andCombine first second =
        andCombine second first) ∧
      (∀ first second third, (andCombine first second).andCombine third =
        first.andCombine (second.andCombine third)) ∧
      (∀ first second, orCombine first second = orCombine second first) ∧
      ∀ first second third, orCombine (orCombine first second) third =
        orCombine first (orCombine second third) := by
  obtain ⟨matched, pairs, shuffled⟩ := reordered.combiners
  have otherCombined : OrCombined other := fun combiner member =>
    orCombined_reordered pairs orCombined combiner (shuffled.mem_iff.mpr member)
  refine ⟨⟨_, check_fold orCombined answers timestamp, ?_⟩, Std.Commutative.comm,
    Std.Associative.assoc, Std.Commutative.comm, Std.Associative.assoc⟩
  have sameSummaries := summary_reordered (verdict item.components timestamp answer) pairs
    fun combiner member => (orCombined combiner member).1
  rw [check_fold otherCombined otherAnswers timestamp, reordered.components, sameSummaries,
    (shuffled.map _).foldl_op_eq, (reordered.terms.map _).foldl_op_eq]

section Example

variable (combiners : List (List Uid)) (terms : List Uid)

/-- An entity that only has terms, some of them in Or combiners. -/
def termsOnly : EntityItem where
  codelets := []
  codelets_nodup := List.nodup_nil
  terms
  combiners := combiners.map orSchedulingTermCombiner
  components _ := .other
  status := .GXF_ENTITY_STATUS_STARTED
  lastExecutionTimestamp := 0
  behaviorStatus := .GXF_BEHAVIOR_INIT
  hasController := false
  callbacks := []

/-- Components that answer checks of such an entity. -/
def checksOnly (answer : Uid → SchedulingCondition) : Environment where
  hasRouter := true
  startCode _ := .GXF_SUCCESS
  tickCode _ := .GXF_SUCCESS
  stopCode _ := .GXF_SUCCESS
  syncInbox := .GXF_SUCCESS
  syncOutbox := .GXF_SUCCESS
  check list position := .ok (answer (((combiners ++ [terms]).getD list []).getD position 0))
  combinerResult _ := ⟨.READY, 0⟩
  onExecute _ := .GXF_SUCCESS
  controllerLookup := .absent
  control _ := ⟨.GXF_BEHAVIOR_RUNNING, .GXF_EXECUTE_SUCCESS⟩

theorem answers_checksOnly (answer : Uid → SchedulingCondition) :
    Answers (checksOnly combiners terms answer) (termsOnly combiners terms) answer := by
  constructor
  · intro index combiner isCombiner position term isTerm
    obtain ⟨list, isList, rfl⟩ := List.getElem?_map ▸ isCombiner |> Option.map_eq_some_iff.mp
    have inside := (List.getElem?_eq_some_iff.mp isList).1
    have isTerm : list[position]? = some term := isTerm
    simp only [checksOnly, List.getD, List.getElem?_append_left inside, isList, isTerm,
      Option.getD_some]
  · intro position term isTerm
    have isTerm : terms[position]? = some term := isTerm
    have length : (termsOnly combiners terms).combiners.length = combiners.length :=
      List.length_map _
    simp [checksOnly, length, List.getD, isTerm]

/-- Three terms in two combiners and two others, forwards and backwards. -/
theorem check_reordered_backwards :
    let answer : Uid → SchedulingCondition := fun term => ⟨.WAIT_TIME, 10 * term⟩
    ∃ condition,
      ((termsOnly [[1, 2], [3]] [4, 5]).check (checksOnly [[1, 2], [3]] [4, 5] answer) 0).2 =
          .ok condition ∧
        ((termsOnly [[3], [2, 1]] [5, 4]).check (checksOnly [[3], [2, 1]] [5, 4] answer) 0).2 =
          .ok condition := by
  intro answer
  have sameTerms : List.Forall₂ SameTerms
      [orSchedulingTermCombiner [1, 2], orSchedulingTermCombiner [3]]
      [orSchedulingTermCombiner [2, 1], orSchedulingTermCombiner [3]] :=
    .cons ⟨rfl, List.Perm.swap _ _ _⟩ (.cons ⟨rfl, List.Perm.refl _⟩ .nil)
  have orCombined : OrCombined (termsOnly [[1, 2], [3]] [4, 5]) := by
    intro combiner member
    simp only [termsOnly, List.map_cons, List.map_nil, List.mem_cons, List.not_mem_nil,
      or_false] at member
    rcases member with rfl | rfl
    · exact ⟨rfl, List.cons_ne_nil _ _⟩
    · exact ⟨rfl, List.cons_ne_nil _ _⟩
  have reordered : Reordered (termsOnly [[1, 2], [3]] [4, 5]) (termsOnly [[3], [2, 1]] [5, 4]) :=
    ⟨rfl, List.Perm.swap _ _ _, _, sameTerms, List.Perm.swap _ _ _⟩
  have answers := answers_checksOnly [[1, 2], [3]] [4, 5] answer
  have otherAnswers := answers_checksOnly [[3], [2, 1]] [5, 4] answer
  exact (check_reordered reordered orCombined answers otherAnswers 0).1

end Example

end Gxf.Std.EntityItem
