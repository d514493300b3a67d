import BatchChanges.Operation
import Mathlib.Tactic.Common

/-! # Lists of operations, compared and shown

Two lists hold the same operations equally often if and only if they become the same list when they
are put in order, because no two operations have the same place in the order. The text of a list
shows its operations in their own order. No name has a comma in it and the texts of a list are
separated by commas, so that the first name can be read off the text even where one name is the
beginning of another; and the text of the empty list is no name.
-/

namespace BatchChanges.Operation

variable {first second : List Operation}

private theorem rank_injective {operation other : Operation} (same : operation.rank = other.rank) :
    operation = other := by
  cases operation <;> cases other <;> simp_all [rank]

private theorem sorted_perm (operations : List Operation) : (sorted operations).Perm operations :=
  List.mergeSort_perm _ _

private theorem pairwise_sorted (operations : List Operation) :
    (sorted operations).Pairwise fun earlier later => earlier.rank ≤ later.rank := by
  have ordered : (sorted operations).Pairwise fun earlier later =>
      decide (earlier.rank ≤ later.rank) = true := by
    apply List.pairwise_mergeSort
    · intro one two three
      simp only [decide_eq_true_eq]
      omega
    · intro one two
      simp only [Bool.or_eq_true, decide_eq_true_eq]
      omega
  exact ordered.imp of_decide_eq_true

private theorem sorted_eq_iff_perm : sorted first = sorted second ↔ first.Perm second := by
  constructor
  · intro same
    exact (sorted_perm first).symm.trans (same ▸ sorted_perm second)
  · intro permuted
    have sorts := (sorted_perm first).trans (permuted.trans (sorted_perm second).symm)
    apply sorts.eq_of_pairwise
    · intro one two _ _ below above
      exact rank_injective (Nat.le_antisymm below above)
    · exact pairwise_sorted first
    · exact pairwise_sorted second

private theorem equivalent_iff_perm : equivalent first second = true ↔ first.Perm second := by
  rw [equivalent, beq_iff_eq, sorted_eq_iff_perm]

private theorem text_injective {operation other : Operation} (same : operation.text = other.text) :
    operation = other := by
  cases operation <;> cases other <;> simp_all [text]

private theorem comma_not_mem_text (operation : Operation) : ',' ∉ operation.text.toList := by
  cases operation <;> decide

def continued (operations : List Operation) : List Char :=
  operations.flatMap fun operation => ',' :: ' ' :: operation.text.toList

private theorem toList_listText (operation : Operation) (rest : List Operation) :
    (listText (operation :: rest)).toList = operation.text.toList ++ continued rest := by
  simp only [listText, List.map_cons]
  induction rest generalizing operation with
  | nil => simp [continued]
  | cons next rest ih =>
    rw [List.map_cons, String.intercalate_cons_cons, String.toList_append, String.toList_append, ih]
    simp [continued]

/-- What comes before the first comma is read off the whole text. -/
theorem takeWhile_continued {name : List Char} (proper : ',' ∉ name) (rest : List Operation) :
    (name ++ continued rest).takeWhile (· ≠ ',') = name := by
  have plain : ∀ letter ∈ name, decide (letter ≠ ',') = true := by
    intro letter member
    exact decide_eq_true fun same => proper (same ▸ member)
  rw [List.takeWhile_append_of_pos plain]
  cases rest <;> simp [continued]

/-- Two texts that go on alike begin alike and go on with the same names. -/
theorem append_continued_inj {name other : List Char} {rest more : List Operation}
    (proper : ',' ∉ name) (proper' : ',' ∉ other)
    (same : name ++ continued rest = other ++ continued more) :
    name = other ∧ continued rest = continued more := by
  have begins := congrArg (List.takeWhile (· ≠ ',')) same
  rw [takeWhile_continued proper, takeWhile_continued proper'] at begins
  subst begins
  exact ⟨rfl, List.append_cancel_left same⟩

private theorem continued_injective (same : continued first = continued second) :
    first = second := by
  induction first generalizing second with
  | nil =>
    cases second with
    | nil => rfl
    | cons operation rest => simp [continued] at same
  | cons operation rest ih =>
    cases second with
    | nil => simp [continued] at same
    | cons other more =>
      have shown : operation.text.toList ++ continued rest =
          other.text.toList ++ continued more := by
        simpa [continued] using same
      obtain ⟨begins, goesOn⟩ := append_continued_inj (comma_not_mem_text operation)
        (comma_not_mem_text other) shown
      rw [text_injective (String.toList_inj.mp begins), ih goesOn]

private theorem listText_cons_ne (operation : Operation) (rest : List Operation) :
    listText (operation :: rest) ≠ "(none)" := by
  intro same
  have shown : operation.text.toList ++ continued rest = "(none)".toList ++ continued [] := by
    rw [← toList_listText, same]
    rfl
  obtain ⟨begins, -⟩ := append_continued_inj (comma_not_mem_text operation) (by decide) shown
  cases operation <;> exact absurd begins (by decide)

private theorem listText_injective (same : listText first = listText second) : first = second := by
  cases first with
  | nil =>
    cases second with
    | nil => rfl
    | cons operation rest => exact absurd same.symm (listText_cons_ne operation rest)
  | cons operation rest =>
    cases second with
    | nil => exact absurd same (listText_cons_ne operation rest)
    | cons other more =>
      have shown := congrArg String.toList same
      rw [toList_listText, toList_listText] at shown
      obtain ⟨begins, goesOn⟩ := append_continued_inj (comma_not_mem_text operation)
        (comma_not_mem_text other) shown
      rw [text_injective (String.toList_inj.mp begins), continued_injective goesOn]

/-- For all lists of operations: two lists are equivalent if and only if one is a permutation of the
other, that is, if every operation occurs equally often in both. So this is an equivalence, and it
does not matter for it in which order the operations stand, nor which operations are added to both
lists, at whatever places. The texts of two lists are equal if and only if the lists are, in their
order; the empty list is no exception. -/
theorem lists_compared_and_shown (first second : List Operation) :
    (equivalent first second = true ↔ second.Perm first) ∧
    (equivalent first second = true ↔
      ∀ operation, first.count operation = second.count operation) ∧
    Equivalence (fun left right => equivalent left right = true) ∧
    (∀ added left right : List Operation, left.Perm (added ++ first) →
      right.Perm (added ++ second) → equivalent left right = equivalent first second) ∧
    (listText first = listText second ↔ first = second) := by
  refine ⟨?_, ?_, ⟨?_, ?_, ?_⟩, ?_, ?_⟩
  · rw [equivalent_iff_perm, List.perm_comm]
  · rw [equivalent_iff_perm, List.perm_iff_count]
  · intro operations
    exact equivalent_iff_perm.mpr (.refl operations)
  · intro left right same
    exact equivalent_iff_perm.mpr (equivalent_iff_perm.mp same).symm
  · intro left middle right same other
    exact equivalent_iff_perm.mpr
      ((equivalent_iff_perm.mp same).trans (equivalent_iff_perm.mp other))
  · intro added left right one two
    rw [Bool.eq_iff_iff, equivalent_iff_perm, equivalent_iff_perm, one.congr_left, two.congr_right,
      List.perm_append_left_iff]
  · constructor
    · exact listText_injective
    · exact congrArg listText

/-- Two orders of the same operations are equivalent, also with one of them added once more to each,
and are shown differently, although one name is the beginning of another. -/
theorem lists_compared_and_shown_prefixed :
    [push, publish, publishDraft, publish].Perm ([publish] ++ [push, publishDraft, publish]) ∧
      [publish, publish, publishDraft, push].Perm ([publish] ++ [publish, push, publishDraft]) ∧
      equivalent [push, publish, publishDraft, publish] [publish, publish, publishDraft, push] =
        equivalent [push, publishDraft, publish] [publish, push, publishDraft] ∧
      equivalent [push, publishDraft, publish] [publish, push, publishDraft] = true ∧
      listText [push, publishDraft, publish] ≠ listText [publish, push, publishDraft] := by
  obtain ⟨permuted, -, -, added, shown⟩ :=
    lists_compared_and_shown [push, publishDraft, publish] [publish, push, publishDraft]
  have one : [push, publish, publishDraft, publish].Perm
      ([publish] ++ [push, publishDraft, publish]) := by decide
  have two : [publish, publish, publishDraft, push].Perm
      ([publish] ++ [publish, push, publishDraft]) := by decide
  exact ⟨one, two, added _ _ _ one two, permuted.mpr (by decide), shown.not.mpr (by decide)⟩

end BatchChanges.Operation
