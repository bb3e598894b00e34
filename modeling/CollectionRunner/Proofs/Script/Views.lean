import CollectionRunner.Proofs.Script.Traces

/-!
# What scripts do to the request they see

A script reaches its view of a request by effects only, and each effect on it is one change by
`RequestView.mutate` (`Host.request_apply`).  `RequestView.Edits` is what holds between the view at
the beginning and at any later moment: the method stays, a view that is not marked as modified is the
one from the beginning, and a view that may not be changed stays as it was.  So writing an edited
view back over its request gives what the view shows, marked or not
(`RequestView.Edits.applyTo_eq`).
-/

namespace CollectionRunner

/-- The view comes from another one by changes that leave the method. -/
structure RequestView.Edits (start view : RequestView) : Prop where
  method : view.request.method = start.request.method
  mutable : view.mutable = start.mutable
  unmodified : view.modified = false → view = start
  readOnly : start.mutable = false → view = start

namespace RequestView.Edits

variable {start view : RequestView}

theorem refl (view : RequestView) : Edits view view := ⟨rfl, rfl, fun _ => rfl, fun _ => rfl⟩

/-- A change of the request that keeps its method is one more edit. -/
theorem mutate (edits : Edits start view) {f : Request → Request}
    (keeps : ∀ r, (f r).method = r.method) {changed : RequestView}
    (mutated : view.mutate f = some changed) : Edits start changed := by
  unfold RequestView.mutate at mutated
  split at mutated
  · rename_i allowed
    cases mutated
    exact {
      method := (keeps view.request).trans edits.method
      mutable := edits.mutable
      unmodified := fun unmodified => by cases unmodified
      readOnly := fun refused => by
        rw [edits.mutable, refused] at allowed
        cases allowed }
  · cases mutated

/-- A view that was not marked shows the request itself, and a marked one differs from it in what is
written back only. -/
theorem applyTo_eq {r : Request} (edits : Edits (.editable r) view) :
    view.applyTo r = view.request := by
  unfold applyTo
  split
  · obtain ⟨⟨method, url, headers, body⟩, _, _⟩ := view
    have same : method = r.method := edits.method
    rw [same]
  · rename_i unmodified
    rw [edits.unmodified (Bool.eq_false_iff.mpr unmodified)]
    rfl

end RequestView.Edits

/-! ## Effects on the view -/

theorem RequestView.map_fst_removeHeader (v : RequestView) (name : String) :
    (v.removeHeader name).map Prod.fst =
      v.mutate fun r => { r with headers := dropHeader name r.headers } := by
  unfold removeHeader
  rw [Option.map_map]
  exact Option.map_id'

@[simp]
theorem Host.request_onTracker (h : Host) (store : Store) (f : Tracker → Tracker) :
    (h.onTracker store f).request = h.request := by
  cases store <;> rfl

/-- A change of the request that is refused leaves the view. -/
theorem Host.request_onRequest_mutate (h : Host) {f : Request → Request}
    (keeps : ∀ r, (f r).method = r.method) :
    (h.onRequest (h.request.mutate f)).request = h.request ∨
      ∃ g : Request → Request, (∀ r, (g r).method = r.method) ∧
        h.request.mutate g = some (h.onRequest (h.request.mutate f)).request := by
  cases changed : h.request.mutate f with
  | none => exact .inl rfl
  | some view => exact .inr ⟨f, keeps, changed⟩

/-- An effect leaves the view of the request, or changes it once in something other than its
method. -/
theorem Host.request_apply (h : Host) (e : Effect) :
    (h.apply e).request = h.request ∨ ∃ f : Request → Request,
      (∀ r, (f r).method = r.method) ∧ h.request.mutate f = some (h.apply e).request := by
  cases e with
  | setUrl url =>
    simp only [apply, RequestView.setUrl]
    exact h.request_onRequest_mutate fun _ => rfl
  | setHeader name value =>
    simp only [apply, RequestView.setHeader]
    exact h.request_onRequest_mutate fun _ => rfl
  | removeHeader name =>
    simp only [apply, RequestView.map_fst_removeHeader]
    exact h.request_onRequest_mutate fun _ => rfl
  | setBody body =>
    simp only [apply, RequestView.setBody]
    exact h.request_onRequest_mutate fun _ => rfl
  | set | unset => exact .inl (h.request_onTracker _ _)
  | log | send => exact .inl rfl

/-- All that a script does to its view of the request are edits of that view. -/
theorem Host.Evolves.edits {start h : Host} (evolves : start.Evolves h) :
    RequestView.Edits start.request h.request := by
  induction evolves with
  | refl => exact .refl _
  | @effect g e _ ih =>
    rcases g.request_apply e with same | ⟨f, keeps, changed⟩
    · rw [same]
      exact ih
    · exact ih.mutate keeps changed
  | begin _ ih => exact ih
  | record r _ ih => exact ih

end CollectionRunner
