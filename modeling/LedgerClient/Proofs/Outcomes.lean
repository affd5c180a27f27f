import Mathlib.Data.List.Forall2

/-!
Steps that may fail, taken one after the other. A sequence of steps succeeds exactly when each of
them does, and otherwise fails for the reason that the first of them gives.
-/

namespace LedgerClient

variable {ε δ α β : Type} {error : ε}

theorem bind_eq_ok {first : Except ε α} {next : α → Except ε β} {result : β} :
    first >>= next = .ok result ↔ ∃ value, first = .ok value ∧ next value = .ok result := by
  cases first with
  | error error => simp [bind, Except.bind]
  | ok value => simp [bind, Except.bind]

theorem bind_eq_error {first : Except ε α} {next : α → Except ε β} :
    first >>= next = .error error ↔
      first = .error error ∨ ∃ value, first = .ok value ∧ next value = .error error := by
  cases first with
  | error cause => simp [bind, Except.bind]
  | ok value => simp [bind, Except.bind]

theorem map_eq_ok {first : Except ε α} {f : α → β} {result : β} :
    first.map f = .ok result ↔ ∃ value, first = .ok value ∧ f value = result := by
  cases first with
  | error error => simp [Except.map]
  | ok value => simp [Except.map]

theorem map_eq_error {first : Except ε α} {f : α → β} :
    first.map f = .error error ↔ first = .error error := by
  cases first with
  | error cause => simp [Except.map]
  | ok value => simp [Except.map]

theorem mapError_eq_ok {result : Except ε α} {f : ε → δ} {value : α} :
    result.mapError f = .ok value ↔ result = .ok value := by
  cases result with
  | error error => simp [Except.mapError]
  | ok given => simp [Except.mapError]

theorem mapError_eq_error {result : Except ε α} {f : ε → δ} {reported : δ} :
    result.mapError f = .error reported ↔ ∃ cause, result = .error cause ∧ f cause = reported := by
  cases result with
  | error error => simp [Except.mapError]
  | ok given => simp [Except.mapError]

/-! ## One step for each item -/

variable {items : List α}

theorem mapM_eq_ok {action : α → Except ε β} {results : List β}
    (mapped : items.mapM action = .ok results) :
    List.Forall₂ (fun item result => action item = .ok result) items results := by
  induction items generalizing results with
  | nil =>
      cases mapped
      exact .nil
  | cons item rest ih =>
      rw [List.mapM_cons] at mapped
      obtain ⟨first, done, later⟩ := bind_eq_ok.mp mapped
      obtain ⟨others, doneRest, final⟩ := bind_eq_ok.mp later
      cases final
      exact .cons done (ih doneRest)

theorem mapM_eq_ok_iff {action : α → Except ε β} {results : List β} :
    items.mapM action = .ok results ↔
      List.Forall₂ (fun item result => action item = .ok result) items results := by
  refine ⟨mapM_eq_ok, fun each => ?_⟩
  induction each with
  | nil => rfl
  | cons done _ ih => rw [List.mapM_cons, done, ih]; rfl

/-- The items in front of the one that failed were all done. -/
theorem mapM_eq_error_iff {action : α → Except ε β} :
    items.mapM action = .error error ↔ ∃ earlier item later, items = earlier ++ item :: later ∧
      (∀ other ∈ earlier, ∃ value, action other = .ok value) ∧ action item = .error error := by
  induction items with
  | nil =>
      refine ⟨nofun, ?_⟩
      rintro ⟨earlier, item, later, split, -⟩
      cases List.append_eq_nil_iff.mp split.symm |>.2
  | cons first rest ih =>
      rw [List.mapM_cons, bind_eq_error]
      constructor
      · rintro (failed | ⟨value, done, failed⟩)
        · exact ⟨[], first, rest, rfl, nofun, failed⟩
        · rcases bind_eq_error.mp failed with others | ⟨values, -, final⟩
          · obtain ⟨earlier, item, later, rfl, passed, refused⟩ := ih.mp others
            exact ⟨first :: earlier, item, later, rfl,
              List.forall_mem_cons.mpr ⟨⟨value, done⟩, passed⟩, refused⟩
          · cases final
      · rintro ⟨earlier, item, later, split, passed, refused⟩
        cases earlier with
        | nil =>
            cases split
            exact .inl refused
        | cons head earlier =>
            cases split
            obtain ⟨⟨value, done⟩, passed⟩ := List.forall_mem_cons.mp passed
            exact .inr ⟨value, done,
              bind_eq_error.mpr (.inl (ih.mpr ⟨earlier, item, later, rfl, passed, refused⟩))⟩

theorem mapM_eq_error {action : α → Except ε β} (failed : items.mapM action = .error error) :
    ∃ item ∈ items, action item = .error error := by
  obtain ⟨earlier, item, later, rfl, -, refused⟩ := mapM_eq_error_iff.mp failed
  exact ⟨item, List.mem_append_right earlier List.mem_cons_self, refused⟩

variable {check : α → Except ε Unit}

theorem forM_eq_mapM (items : List α) :
    items.forM check = (items.mapM check).map fun _ => () := by
  induction items with
  | nil => rfl
  | cons item rest ih =>
      rw [List.mapM_cons, List.forM, ih]
      cases check item with
      | error cause => rfl
      | ok value => cases rest.mapM check <;> rfl

theorem forM_eq_ok_iff : items.forM check = .ok () ↔ ∀ item ∈ items, check item = .ok () := by
  induction items with
  | nil => simp [List.forM, pure, Except.pure]
  | cons item rest ih =>
      rw [List.forall_mem_cons, ← ih]
      refine bind_eq_ok.trans ⟨?_, fun passed => ⟨(), passed⟩⟩
      rintro ⟨⟨⟩, first, later⟩
      exact ⟨first, later⟩

theorem forM_eq_error_iff :
    items.forM check = .error error ↔ ∃ earlier item later, items = earlier ++ item :: later ∧
      (∀ other ∈ earlier, check other = .ok ()) ∧ check item = .error error := by
  have passes (other : α) : (∃ value, check other = .ok value) ↔ check other = .ok () :=
    ⟨fun ⟨_, passed⟩ => passed, fun passed => ⟨(), passed⟩⟩
  simp only [forM_eq_mapM, map_eq_error, mapM_eq_error_iff, passes]

end LedgerClient
