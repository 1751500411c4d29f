import Companion.Proofs.Output.FileSet

/-!
# Laws of merging

Artifacts are merged in any grouping with the same result, since removing repeated import lines
commutes with putting lists of them behind each other. The artifact without code is neutral where
there is nothing to remove, and only there.
-/

set_option autoImplicit false

namespace Companion.Artifact

open FileSet

theorem gather_cons (artifact : Artifact) (rest : List Artifact) :
    gather (artifact :: rest) = artifact.merge (gather rest) := by
  apply Artifact.ext
  · simp [gather, merge, Text.distinct_append_distinct]
  · simp [gather, merge]

theorem gather_append (left right : List Artifact) :
    gather (left ++ right) = (gather left).merge (gather right) := by
  apply Artifact.ext
  · simp [gather, merge, Text.distinct_append_distinct, Text.distinct_distinct_append]
  · simp [gather, merge]

theorem merge_assoc (first second third : Artifact) :
    (first.merge second).merge third = first.merge (second.merge third) := by
  apply Artifact.ext
  · simp [merge, Text.distinct_append_distinct, Text.distinct_distinct_append]
  · simp [merge]

theorem empty_merge_eq_iff {artifact : Artifact} :
    empty.merge artifact = artifact ↔ artifact.imports.Nodup := by
  rw [← Text.distinct_eq_self_iff, Artifact.ext_iff]
  simp [merge, empty]

theorem merge_empty_eq_iff {artifact : Artifact} :
    artifact.merge empty = artifact ↔ artifact.imports.Nodup := by
  rw [← Text.distinct_eq_self_iff, Artifact.ext_iff]
  simp [merge, empty]

/-- Groups of artifacts are merged one by one and then with each other, or all at once. -/
theorem gather_map_gather (groups : List (List Artifact)) :
    gather (groups.map gather) = gather groups.flatten := by
  induction groups with
  | nil => rfl
  | cons group rest ih =>
      rw [List.map_cons, gather_cons, ih, List.flatten_cons, gather_append]

/-- Merging is associative, and what any number of artifacts come to does not depend on how they are
grouped: each import line where it occurs first, and all statements in order. The empty artifact
changes just those artifacts in which an import line is repeated, on either side; none is repeated in
what has been merged. -/
theorem merge_laws :
    (∀ first second third : Artifact,
      (first.merge second).merge third = first.merge (second.merge third)) ∧
    (∀ artifact : Artifact,
      (empty.merge artifact = artifact ↔ artifact.imports.Nodup) ∧
        (artifact.merge empty = artifact ↔ artifact.imports.Nodup)) ∧
    (∀ first second : Artifact, (first.merge second).imports.Nodup) ∧
    (∀ artifacts, concat artifacts = gather artifacts) ∧
    ∀ groups : List (List Artifact), concat (groups.map concat) = concat groups.flatten := by
  refine ⟨merge_assoc, fun artifact => ⟨empty_merge_eq_iff, merge_empty_eq_iff⟩,
    fun first second => Text.nodup_distinct _, concat_eq_gather, fun groups => ?_⟩
  have each : concat = gather := funext concat_eq_gather
  rw [each, gather_map_gather]

/-- A repeated import line goes, even where nothing is added. -/
example : empty.merge { imports := ["a", "a"] } = { imports := ["a"] } := by decide

end Companion.Artifact
