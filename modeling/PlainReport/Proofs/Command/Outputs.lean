import PlainReport.Command.Invocation
import PlainReport.Proofs.Number.Decimal
import PlainReport.Proofs.Report.Files

/-!
# Numbered outputs

The path of an output ends in its number, an underscore and a name that is the same for all
numbers, and what comes before is the same too (`exists_indexedOutput_eq`).  So outputs with
different numbers have different paths (`indexedOutput_injective`).  The number also ends the
name of the place, wherever the path leads, so they are different files in every tree
(`index_eq_of_sameFile`).
-/

namespace PlainReport.Command

/-! ## Numbered names -/

/-- A name after a number and an underscore. -/
def numbered (name : Text) (index : Nat) : Text := decimal index ++ "_" ++ name

theorem numbered_injective (name : Text) : Function.Injective (numbered name) := by
  intro m n h
  have hdigits : decimal m = decimal n :=
    List.append_cancel_right (List.append_cancel_right h)
  have hread : some m = some n := by
    rw [← readDecimal?_decimal m, ← readDecimal?_decimal n, hdigits]
  exact Option.some.inj hread

theorem underscore_mem_numbered (name : Text) (index : Nat) : '_' ∈ numbered name index :=
  List.mem_append_left _ (List.mem_append_right _ List.mem_cons_self)

theorem slash_not_mem_numbered {name : Text} (h : '/' ∉ name) (index : Nat) :
    '/' ∉ numbered name index := by
  intro hm
  rcases List.mem_append.1 hm with hm | hm
  · rcases List.mem_append.1 hm with hm | hm
    · exact absurd (isDigit_of_mem_decimal hm) (by decide)
    · exact absurd hm (by decide)
  · exact h hm

/-- A numbered name is a step down. -/
theorem stepTo_numbered (place : Place) (name : Text) (index : Nat) :
    FileTree.stepTo place (numbered name index) = place ++ [numbered name index] := by
  have hne : ∀ t : Text, '_' ∉ t → numbered name index ≠ t := fun t ht he =>
    ht (he ▸ underscore_mem_numbered name index)
  rw [FileTree.stepTo, if_neg (hne _ (by decide)), if_neg (hne _ (by decide))]

/-! ## Numbered paths -/

theorem mem_of_mem_leadingParts {part : Text} {parts : List Text}
    (h : part ∈ leadingParts parts) : part ∈ parts := by
  cases parts with
  | nil => cases h
  | cons start rest =>
    rcases List.mem_cons.1 h with rfl | hrest
    · exact List.mem_cons_self
    · exact List.mem_cons_of_mem _ (List.mem_reverse.1
        ((List.dropWhile_sublist _).mem (List.mem_reverse.1 hrest)))

/-- Only the number in the last part of a path depends on the number. -/
theorem exists_indexedOutput_eq (output : Text) :
    ∃ (before : List Text) (name : Text), (∀ part ∈ before, '/' ∉ part) ∧ '/' ∉ name ∧
      ∀ index, indexedOutput output index = Text.join "/" (before ++ [numbered name index]) := by
  have hparts : ∀ part ∈ Text.pieces '/' output, '/' ∉ part := fun _ hp =>
    Text.not_mem_of_mem_pieces hp
  cases hname : fileName? (Text.pieces '/' output) with
  | some name =>
    have hmem : name ∈ leadingParts (Text.pieces '/' output) :=
      List.mem_of_getLast? (Option.eq_some_of_filter_eq_some hname)
    refine ⟨leadingParts (leadingParts (Text.pieces '/' output)).dropLast, name, ?_,
      hparts name (mem_of_mem_leadingParts hmem), fun index => ?_⟩
    · intro part hp
      exact hparts part (mem_of_mem_leadingParts
        (List.dropLast_subset _ (mem_of_mem_leadingParts hp)))
    · simp only [indexedOutput, hname]
      rfl
  | none =>
    refine ⟨if (Text.pieces '/' output).getLast? = some [] then
      (Text.pieces '/' output).dropLast else Text.pieces '/' output, [], ?_,
      List.not_mem_nil, fun index => ?_⟩
    · intro part hp
      split at hp
      · exact hparts part (List.dropLast_subset _ hp)
      · exact hparts part hp
    · simp only [indexedOutput, hname]
      rfl

variable {output : Text} {before : List Text} {name : Text}

theorem pieces_numbered (hb : ∀ part ∈ before, '/' ∉ part) (hn : '/' ∉ name) (index : Nat) :
    Text.pieces '/' (Text.join "/" (before ++ [numbered name index])) =
      before ++ [numbered name index] := by
  refine Text.pieces_join (List.append_ne_nil_of_right_ne_nil _ (List.cons_ne_nil _ _)) ?_
  intro part hp
  rcases List.mem_append.1 hp with hp | hp
  · exact hb part hp
  · exact List.mem_singleton.1 hp ▸ slash_not_mem_numbered hn index

/-- Outputs with different numbers have different paths. -/
theorem indexedOutput_injective (output : Text) : Function.Injective (indexedOutput output) := by
  obtain ⟨before, name, hb, hn, hpath⟩ := exists_indexedOutput_eq output
  intro m n h
  rw [hpath, hpath] at h
  have hpieces := congrArg (Text.pieces '/') h
  rw [pieces_numbered hb hn, pieces_numbered hb hn] at hpieces
  exact numbered_injective name (List.singleton_inj.1 (List.append_cancel_left hpieces))

/-! ## Numbered files -/

/-- The place of an output ends in its numbered name. -/
theorem exists_getLast?_place (output : Text) :
    ∃ name, ∀ (tree : FileTree) (index : Nat) (place : Place),
      tree.resolve (indexedOutput output index) = .ok place →
        place.getLast? = some (numbered name index) := by
  obtain ⟨before, name, hb, hn, hpath⟩ := exists_indexedOutput_eq output
  refine ⟨name, fun tree index place h => ?_⟩
  have hparts : FileTree.partsOf (indexedOutput output index) =
      before.filter (!·.isEmpty) ++ [numbered name index] := by
    rw [FileTree.partsOf, hpath, pieces_numbered hb hn, List.filter_append]
    refine congrArg _ (List.filter_cons_of_pos ?_)
    have hne : numbered name index ≠ [] :=
      List.ne_nil_of_mem (underscore_mem_numbered name index)
    simp [hne]
  rw [FileTree.resolve, hparts, FileTree.follow] at h
  split at h
  · cases h
  · obtain ⟨directory, rfl⟩ := FileTree.walk_concat h
    rw [stepTo_numbered, List.getLast?_concat]

/-- Outputs with different numbers are different files. -/
theorem index_eq_of_sameFile {tree : FileTree} {m n : Nat}
    (h : tree.SameFile (indexedOutput output m) (indexedOutput output n)) : m = n := by
  obtain ⟨name, hlast⟩ := exists_getLast?_place output
  obtain ⟨place, hm, hn⟩ := h
  exact numbered_injective name
    (Option.some.inj ((hlast tree m place hm).symm.trans (hlast tree n place hn)))

end PlainReport.Command
