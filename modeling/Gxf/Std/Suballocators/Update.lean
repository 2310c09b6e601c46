import Mathlib.Data.Finset.Lattice.Lemmas
import Gxf.Std.Suballocators.Tree

/-!
# Updates of ranges

`update` sets the nodes of the cover of a range, one after another.  Taking the cover of
free cells and giving back the cover of a block keeps the tree sound.
-/

namespace Gxf.Std.FirstFitAllocatorBase

open Gxf.Lib

variable {n depth : Nat} {taken : Finset Nat} {tree : List Memory} {nodes : List Nat}

theorem updateLoop_succ {free : Int} {fuel left right : Nat} (nonempty : left ≤ right) :
    updateLoop free (fuel + 1) tree left right =
      (((if left % 2 = 1 then [left] else []) ++ (if right % 2 = 1 then [] else [right])).foldlM
        (setNode free) tree) >>= fun tree =>
          updateLoop free fuel tree ((left + 1) / 2) ((right - 1) / 2) := by
  rw [updateLoop, if_pos nonempty]
  have leftHalf : ¬left % 2 = 1 → left / 2 = (left + 1) / 2 := by omega
  have rightHalf : right % 2 = 1 → right / 2 = (right - 1) / 2 := by omega
  by_cases leftOdd : left % 2 = 1
  · by_cases rightOdd : right % 2 = 1
    · simp [leftOdd, rightOdd, rightHalf rightOdd]
    · simp [leftOdd, rightOdd, Option.bind_assoc]
  · by_cases rightOdd : right % 2 = 1
    · simp [leftOdd, rightOdd, leftHalf leftOdd, rightHalf rightOdd]
    · simp [leftOdd, rightOdd, leftHalf leftOdd]

/-- The loop of `update` sets the nodes of a cover. -/
theorem updateLoop_eq {free : Int} {layers fuel left right : Nat} (low : 2 ^ layers ≤ left)
    (high : right < 2 ^ (layers + 1)) (enough : layers < fuel) :
    updateLoop free fuel tree left right =
      (cover layers left right).foldlM (setNode free) tree := by
  obtain ⟨fuel, rfl⟩ : ∃ less, fuel = less + 1 := ⟨fuel - 1, by omega⟩
  induction layers generalizing fuel tree left right with
  | zero =>
      rw [cover]
      split
      next nonempty =>
        have leftOne : left = 1 := by omega
        have rightOne : right = 1 := by omega
        have ends : ∀ tree, updateLoop free fuel tree 1 0 = some tree := by
          intro tree
          unfold updateLoop
          rfl
        rw [leftOne, rightOne, updateLoop_succ (Nat.le_refl 1)]
        simp [ends]
      next empty => rw [updateLoop, if_neg empty]; rfl
  | succ layers ih =>
      have halves := pow_succ 2 layers
      have doubled := pow_succ 2 (layers + 1)
      obtain ⟨fuel, rfl⟩ : ∃ less, fuel = less + 1 := ⟨fuel - 1, by omega⟩
      rw [cover]
      split
      next nonempty =>
        have inner : ∀ tree, updateLoop free (fuel + 1) tree ((left + 1) / 2) ((right - 1) / 2) =
            (cover layers ((left + 1) / 2) ((right - 1) / 2)).foldlM (setNode free) tree :=
          fun tree => ih (by omega) (by omega) fuel (by omega)
        simp only [updateLoop_succ nonempty, inner, List.foldlM_append, bind_assoc]
      next empty => rw [updateLoop, if_neg empty]; rfl

theorem foldlM_take (sound : Sound n depth taken (fun _ => False) tree) (nodup : nodes.Nodup)
    (inside : ∀ node ∈ nodes, Inside depth node)
    (apart : ∀ node ∈ nodes, ∀ other ∈ nodes, Above node other → node = other)
    (free : ∀ node ∈ taken, 0 < node ∧ ∀ other ∈ nodes, ¬Above node other) :
    ∃ result, nodes.foldlM (setNode 0) tree = some result ∧
      Sound n depth (taken ∪ nodes.toFinset) (fun _ => False) result ∧
      ∀ leaf, 2 ^ depth ≤ leaf → blockAt result leaf = blockAt tree leaf := by
  induction nodes generalizing taken tree with
  | nil =>
      rw [List.toFinset_nil, Finset.union_empty]
      exact ⟨tree, rfl, sound, fun _ _ => rfl⟩
  | cons first rest ih =>
      have isFirst : first ∈ first :: rest := List.mem_cons_self ..
      have later : ∀ {node}, node ∈ rest → node ∈ first :: rest := List.mem_cons_of_mem first
      obtain ⟨fresh, restNodup⟩ := List.nodup_cons.mp nodup
      obtain ⟨middle, stepped, middleSound, sameBlocks⟩ := setNode_take sound
        (inside first isFirst) fun node member =>
        ⟨(free node member).1, (free node member).2 first isFirst⟩
      obtain ⟨result, returned, resultSound, stillSame⟩ := ih middleSound restNodup
        (fun node member => inside node (later member))
        (fun node member other otherMember => apart node (later member) other (later otherMember))
        (by
          intro node member
          obtain rfl | wasTaken := Finset.mem_insert.mp member
          · refine ⟨(inside node isFirst).1, fun other otherMember isAbove => fresh ?_⟩
            exact apart node isFirst other (later otherMember) isAbove ▸ otherMember
          · exact ⟨(free node wasTaken).1, fun other otherMember =>
              (free node wasTaken).2 other (later otherMember)⟩)
      refine ⟨result, ?_, ?_, fun leaf isLeaf =>
        (stillSame leaf isLeaf).trans (sameBlocks leaf isLeaf)⟩
      · rw [List.foldlM_cons, stepped]
        exact returned
      · rw [List.toFinset_cons, ← Finset.insert_union_comm]
        exact resultSound

theorem foldlM_give (sound : Sound n depth taken
      (fun other => ∃ first ∈ nodes.head?, other = first ∨ other = first / 2) tree)
    (nodup : nodes.Nodup) (inside : ∀ node ∈ nodes, Inside depth node)
    (members : ∀ node ∈ nodes, node ∈ taken)
    (apart : ∀ node ∈ taken, 0 < node ∧ ∀ other ∈ taken, Above node other → node = other)
    (noBlock : ∀ node ∈ nodes, ∀ leaf, 2 ^ depth ≤ leaf → Above node leaf →
      blockAt tree leaf = none) :
    ∃ result, nodes.foldlM (setNode 1) tree = some result ∧
      Sound n depth (taken \ nodes.toFinset) (fun _ => False) result ∧
      ∀ leaf, 2 ^ depth ≤ leaf → blockAt result leaf = blockAt tree leaf := by
  induction nodes generalizing taken tree with
  | nil =>
      rw [List.toFinset_nil, Finset.sdiff_empty]
      refine ⟨tree, rfl, sound.mono fun _ _ isStale => ?_, fun _ _ => rfl⟩
      obtain ⟨first, isHead, -⟩ := isStale
      cases isHead
  | cons first rest ih =>
      have isFirst : first ∈ first :: rest := List.mem_cons_self ..
      have later : ∀ {node}, node ∈ rest → node ∈ first :: rest := List.mem_cons_of_mem first
      obtain ⟨fresh, restNodup⟩ := List.nodup_cons.mp nodup
      obtain ⟨middle, stepped, middleSound, sameBlocks⟩ := setNode_give
        (sound.mono fun other _ ⟨node, isHead, isStale⟩ => Option.some.inj isHead ▸ isStale)
        (inside first isFirst) (members first isFirst) apart (noBlock first isFirst)
      obtain ⟨result, returned, resultSound, stillSame⟩ :=
        ih (middleSound.mono fun _ _ never => never.elim) restNodup
          (fun node member => inside node (later member))
          (fun node member => Finset.mem_erase.mpr
            ⟨fun same => fresh (same ▸ member), members node (later member)⟩)
          (fun node member =>
            have wasTaken := Finset.mem_of_mem_erase member
            ⟨(apart node wasTaken).1, fun other otherMember =>
              (apart node wasTaken).2 other (Finset.mem_of_mem_erase otherMember)⟩)
          (fun node member leaf isLeaf isAbove =>
            (sameBlocks leaf isLeaf).trans (noBlock node (later member) leaf isLeaf isAbove))
      refine ⟨result, ?_, ?_, fun leaf isLeaf =>
        (stillSame leaf isLeaf).trans (sameBlocks leaf isLeaf)⟩
      · rw [List.foldlM_cons, stepped]
        exact returned
      · rw [List.toFinset_cons, Finset.sdiff_insert, ← Finset.erase_sdiff_comm]
        exact resultSound

end Gxf.Std.FirstFitAllocatorBase
