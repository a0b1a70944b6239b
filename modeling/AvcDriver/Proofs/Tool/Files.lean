import AvcDriver.Proofs.Action
import AvcDriver.Tool.Files

/-!
# Files that are made

Making a file empties it, whatever it held before. That is what a run relies on when it writes its
streams behind what the output file holds. A tree of files does so, because a path that leads to a
file leads there still when the file is empty: names are followed through directories only, and
none of these has changed.

* `Files.Truncate`: a file that was made is empty.
* `FileTree.follow_createAt`: a path leads where it led before.
* `FileTree.truncate_files`: making a file in a tree empties it.
-/

namespace AvcDriver.Tool

/-- A file that was made is empty, also if it was there before. -/
def Files.Truncate (files : Files) : Prop :=
  ∀ path readAfter, files.create path = .ok readAfter → readAfter path = .ok []

namespace FileTree

variable {tree tree' : FileTree} {location here next : Location}

/-- A file is made where there is no directory, and it is the one change. -/
theorem entry?_of_createAt (h : tree.createAt location = .ok tree') :
    (∀ refusal, tree.entry? location ≠ some (.directory refusal)) ∧
      tree'.workingDirectory = tree.workingDirectory ∧
      ∀ other, tree'.entry? other =
        if other = location then some (.file []) else tree.entry? other := by
  rw [createAt] at h
  split at h
  · cases h
  · cases h
  · next hdirectory _ =>
    cases h
    have hnot : ∀ refusal, tree.entry? location ≠ some (.directory refusal) :=
      fun refusal hentry => hdirectory refusal hentry
    refine ⟨hnot, rfl, fun other => ?_⟩
    by_cases hroot : other = []
    · -- the root is a directory in every tree, so it is not where the file was made
      have hne : other ≠ location := by
        rintro rfl
        exact hnot none (if_pos hroot)
      unfold entry?
      rw [if_neg hne, if_pos hroot, if_pos hroot]
    · unfold entry?
      rw [if_neg hroot, if_neg hroot, List.lookup_cons]
      by_cases hsame : other = location
      · rw [if_pos hsame, beq_iff_eq.2 hsame]
      · rw [if_neg hsame, beq_eq_false_iff_ne.2 hsame]

theorem follow_createAt (h : tree.createAt location = .ok tree') {name : String}
    (hfollow : tree.follow here name = .ok next) : tree'.follow here name = .ok next := by
  obtain ⟨hnot, -, hentry⟩ := entry?_of_createAt h
  have hne : here ≠ location := by
    rintro rfl
    rw [follow] at hfollow
    split at hfollow
    · cases hfollow
    · cases hfollow
    · next hdirectory => exact hnot _ hdirectory
  rw [follow, hentry, if_neg hne]
  exact hfollow

/-- A path leads where it led before. -/
theorem foldlM_follow_createAt (h : tree.createAt location = .ok tree') (names : List String) :
    ∀ {here : Location}, names.foldlM tree.follow here = .ok next →
      names.foldlM tree'.follow here = .ok next := by
  induction names with
  | nil => exact id
  | cons name rest ih =>
    intro here hfollow
    rw [List.foldlM_cons] at hfollow ⊢
    obtain ⟨between, hfirst, hrest⟩ := bind_eq_ok.1 hfollow
    exact bind_eq_ok.2 ⟨between, follow_createAt h hfirst, ih hrest⟩

/-- A path at which a file is made leads to its location. -/
theorem create_eq_ok {path : String} (h : tree.create path = .ok tree') :
    ∃ here names location, tree.start path = .ok (here, names) ∧
      names.foldlM tree.follow here = .ok location ∧ tree.createAt location = .ok tree' := by
  obtain ⟨⟨here, names⟩, hstart, h⟩ := bind_eq_ok.1 h
  simp only at h
  split at h
  · -- a directory is not made
    obtain ⟨_, -, h⟩ := bind_eq_ok.1 h
    obtain ⟨_, -, h⟩ := bind_eq_ok.1 h
    obtain ⟨_, h, -⟩ := bind_eq_ok.1 h
    cases h
  · obtain ⟨location, hlocation, h⟩ := bind_eq_ok.1 h
    exact ⟨here, names, location, hstart, hlocation, h⟩

/-- **A file that was made in a tree is empty.** -/
theorem truncate_files (tree : FileTree) : tree.files.Truncate := by
  intro path readAfter hcreate
  change (tree.create path).map read = .ok readAfter at hcreate
  rcases hmade : tree.create path with error | tree'
  · rw [hmade] at hcreate
    cases hcreate
  rw [hmade] at hcreate
  cases hcreate
  obtain ⟨here, names, location, hstart, hlocation, hmade⟩ := create_eq_ok hmade
  obtain ⟨-, hdirectory, hentry⟩ := entry?_of_createAt hmade
  have hstart' : tree'.start path = .ok (here, names) := by
    rw [← hstart, start, start, hdirectory]
  rw [read, hstart', ok_bind]
  simp only [foldlM_follow_createAt hmade names hlocation, ok_bind, hentry, if_pos]
  rfl

end FileTree

end AvcDriver.Tool
