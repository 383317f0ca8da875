import SqlStatement.Proofs.Row.Views
import SqlStatement.Proofs.Value.Plain

/-!
# What the JSON object of a row keeps

Main statement, `toJson_eq_toJson_iff_last`: the object of a row forgets the order of the columns,
the cells that a later cell of their name hides, and which of null and the reals that are not finite
a cell held; it forgets nothing else.
-/

namespace SqlStatement.Row

/-- Rows have the same object exactly if their last cells have the same JSON forms. -/
theorem toJson_eq_iff_map_last {a b : Row} :
    a.toJson = b.toJson ↔
      ∀ column, (a.last column).map Value.toJson = (b.last column).map Value.toJson := by
  constructor
  · intro h column
    rw [← toJson_get?, ← toJson_get?, h]
  · intro h
    refine congrArg Json.obj ((Members.ascending_ofList _).ext (Members.ascending_ofList _) ?_)
    rintro ⟨column, json⟩
    have hlast :
        (Members.ofList a.members).lookup column = (Members.ofList b.members).lookup column :=
      (toJson_get? a column).trans ((h column).trans (toJson_get? b column).symm)
    rw [← (Members.ascending_ofList _).lookup_eq_some_iff,
      ← (Members.ascending_ofList _).lookup_eq_some_iff, hlast]

/-- **What the object of a row keeps.** Two rows have the same object exactly if they have the same
names and, for every name, their last cells are the same value, or each of them is null or a real
that is not finite. -/
theorem toJson_eq_toJson_iff_last (a b : Row) :
    a.toJson = b.toJson ↔
      (∀ column, column ∈ a.columns ↔ column ∈ b.columns) ∧
        ∀ column v w, a.last column = some v → b.last column = some w →
          v = w ∨ v.WritesNull ∧ w.WritesNull := by
  simp only [toJson_eq_iff_map_last, ← isSome_last_iff, ← Value.toJson_eq_toJson_iff]
  constructor
  · intro h
    refine ⟨fun column => ?_, fun column v w hv hw => ?_⟩
    · rw [← Option.isSome_map, h, Option.isSome_map]
    · have hcolumn := h column
      rw [hv, hw] at hcolumn
      exact Option.some.inj hcolumn
  · rintro ⟨hnames, hcells⟩ column
    cases hv : a.last column with
    | none =>
      have hnone : b.last column = none := by simpa [hv] using hnames column
      rw [hnone]
    | some v =>
      obtain ⟨w, hw⟩ := Option.isSome_iff_exists.mp ((hnames column).mp (by rw [hv]; rfl))
      rw [hw]
      exact congrArg some (hcells column v w hv hw)

end SqlStatement.Row
