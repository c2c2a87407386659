import NetPlugin.Handler

/-
  The layers of a handler's failure.

  The outermost error of the protocol is the first one of
  the layers, read from the outside; what a root has below
  it is only told in messages.

  Main declarations:
    * `HandlerError.layers`
    * `HandlerError.outermost?_eq_some_iff`
    * `HandlerError.outermost?_eq_none_iff`
    * `HandlerError.classify_eq_iff`
-/

------------------------------------------------------------
-- Layers
------------------------------------------------------------

namespace NetPlugin

namespace HandlerError

/- The layers from the outermost one to the root. -/
def layers : HandlerError → List Layer
  | .root layer _ => [layer]
  | .context layer inner => layer :: inner.layers

theorem Layer.error?_eq_some_iff
    (layer : Layer)
    (e : PluginError) :
    layer.error? = some e ↔ layer = .plugin e := by
  cases layer with
  | message text => simp [error?]
  | plugin other => simp [error?]

/- The outermost error is the first one of the layers. -/
theorem outermost?_eq_findSome? (failure : HandlerError) :
    failure.outermost? =
      failure.layers.findSome? Layer.error? := by
  induction failure with
  | root layer sources =>
      simp [outermost?, layers]
  | context layer inner ih =>
      unfold outermost? layers
      rw [List.findSome?_cons, ih]
      cases layer.error? <;> rfl

/- No layer around the outermost error is another one. -/
theorem outermost?_eq_some_iff
    (failure : HandlerError)
    (e : PluginError) :
    failure.outermost? = some e ↔
      ∃ outer inner,
        failure.layers = outer ++ .plugin e :: inner ∧
          ∀ other, Layer.plugin other ∉ outer := by
  rw [outermost?_eq_findSome?, List.findSome?_eq_some_iff]
  constructor
  · rintro ⟨outer, layer, inner, hLayers, hError, hOuter⟩
    rw [Layer.error?_eq_some_iff] at hError
    subst hError
    refine ⟨outer, inner, hLayers, ?_⟩
    intro other hOther
    have hNone := hOuter _ hOther
    cases hNone
  · rintro ⟨outer, inner, hLayers, hOuter⟩
    refine
      ⟨outer, .plugin e, inner, hLayers, rfl, ?_⟩
    intro layer hLayer
    cases layer with
    | message text => rfl
    | plugin other => exact absurd hLayer (hOuter other)

theorem outermost?_eq_none_iff (failure : HandlerError) :
    failure.outermost? = none ↔
      ∀ e, Layer.plugin e ∉ failure.layers := by
  rw [outermost?_eq_findSome?, List.findSome?_eq_none_iff]
  constructor
  · intro hNone e hMem
    cases hNone _ hMem
  · intro hNone layer hLayer
    cases layer with
    | message text => rfl
    | plugin e => exact absurd hLayer (hNone e)

/- What is reported is the outermost error, or internal. -/
theorem classify_eq_iff
    (failure : HandlerError)
    (e : PluginError) :
    failure.classify = e ↔
      failure.outermost? = some e ∨
        failure.outermost? = none ∧
          e = .internal failure.message := by
  unfold classify
  cases hOutermost : failure.outermost? with
  | none => simp [eq_comm]
  | some other => simp

end HandlerError

end NetPlugin
