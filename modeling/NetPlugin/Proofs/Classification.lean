import NetPlugin.Proofs.HandlerErrors
import NetPlugin.Proofs.Reached

/-
  How failures of handlers are reported.

  A failure is built from a root, which may have sources
  below it, and layers of context around it.  The outermost
  layer that is an error of the protocol is reported as it
  is.  Without one, the whole chain is told, in which an
  error of the protocol that is only a source has its text.

  Main declarations:
    * `HandlerError.built` and `chain_built`
    * `HandlerError.Reports` and `classify_reports`
    * `Handlers.FailsWith`
    * `Invocation.perform_reports_failures`
-/

------------------------------------------------------------
-- Failures in Layers
------------------------------------------------------------

namespace NetPlugin

namespace HandlerError

/-
  A root and its sources in layers of context, of which the
  outermost one is the first.
-/
def built
    (contexts : List Layer)
    (base : Layer)
    (sources : List Layer) : HandlerError :=
  contexts.foldr .context (.root base sources)

/-
  What is told of a layer: a message, or that of an error of
  the protocol, and its details if there are any.
-/
def Layer.told : Layer → String
  | .message text => text
  | .plugin e =>
      e.message ++
        if e.details = "" then "" else "; " ++ e.details

theorem Layer.text_eq_told (layer : Layer) :
    layer.text = layer.told := by
  cases layer with
  | message text => rfl
  | plugin e =>
      show e.text = told (.plugin e)
      unfold PluginError.text told
      by_cases hDetails : e.details = ""
      · simp [hDetails]
      · simp [hDetails, String.append_assoc]

section Built

variable (contexts : List Layer) (base : Layer)
variable (sources : List Layer)

@[simp]
theorem layers_built :
    (built contexts base sources).layers =
      contexts ++ [base] := by
  induction contexts with
  | nil => rfl
  | cons layer rest ih => exact congrArg (layer :: ·) ih

@[simp]
theorem chain_built :
    (built contexts base sources).chain =
      (contexts ++ base :: sources).map Layer.told := by
  have hText : Layer.text = Layer.told :=
    funext Layer.text_eq_told
  induction contexts with
  | nil => simp [built, chain, hText]
  | cons layer rest ih =>
      rw [List.cons_append, List.map_cons, ← ih,
        ← Layer.text_eq_told]
      rfl

end Built

------------------------------------------------------------
-- Messages
------------------------------------------------------------

/- A text is no longer than what it is joined into. -/
theorem length_le_of_mem_intercalate
    (separator : String)
    {texts : List String}
    {text : String}
    (hText : text ∈ texts) :
    text.length ≤ (separator.intercalate texts).length := by
  induction texts with
  | nil => cases hText
  | cons first rest ih =>
      by_cases hRest : rest = []
      · subst hRest
        rw [List.mem_singleton] at hText
        rw [hText, String.intercalate_singleton]
      · rw [String.intercalate_cons_of_ne_nil hRest,
          String.length_append, String.length_append]
        rcases List.mem_cons.1 hText with rfl | hMem
        · omega
        · exact (ih hMem).trans (Nat.le_add_left _ _)

/- The message of a chain is longer than its sources. -/
theorem length_lt_of_mem_sources
    (contexts : List Layer)
    (base : Layer)
    {sources : List Layer}
    {layer : Layer}
    (hSource : layer ∈ sources) :
    layer.told.length <
      (built contexts base sources).message.length := by
  have hMem : layer.told ∈ sources.map Layer.told :=
    List.mem_map_of_mem hSource
  have hChain :
      (contexts ++ base :: sources).map Layer.told =
        (contexts ++ [base]).map Layer.told ++
          sources.map Layer.told := by
    simp
  unfold message
  rw [chain_built, hChain,
    String.intercalate_append_of_ne_nil (by simp)
      (List.ne_nil_of_mem hMem),
    String.length_append, String.length_append]
  have hLength := length_le_of_mem_intercalate ": " hMem
  have hSeparator : ": ".length = 2 := rfl
  omega

------------------------------------------------------------
-- Reports
------------------------------------------------------------

/- The layers of a failure, and the error it is reported as. -/
structure Reports
    (contexts : List Layer)
    (base : Layer)
    (sources : List Layer)
    (e : PluginError) : Prop where
  outermost :
    ∀ outer found inner,
      contexts ++ [base] = outer ++ .plugin found :: inner →
      (∀ other, Layer.plugin other ∉ outer) →
        e = found
  internal :
    (∀ found, Layer.plugin found ∉ contexts ++ [base]) →
      e.code.number = 999 ∧
        e.message =
          ": ".intercalate
            ((contexts ++ base :: sources).map Layer.told) ∧
        e.details = ""
  /- Sources are told, and never reported as they are. -/
  notSource :
    (∀ found, Layer.plugin found ∉ contexts ++ [base]) →
      ∀ found, Layer.plugin found ∈ sources → e ≠ found

theorem classify_of_no_error
    {failure : HandlerError}
    (hNone : ∀ found, Layer.plugin found ∉ failure.layers) :
    failure.classify = .internal failure.message := by
  rw [classify_eq_iff]
  exact
    Or.inr ⟨failure.outermost?_eq_none_iff.2 hNone, rfl⟩

theorem classify_reports
    (contexts : List Layer)
    (base : Layer)
    (sources : List Layer) :
    Reports contexts base sources
      (built contexts base sources).classify := by
  constructor
  case outermost =>
    intro outer found inner hLayers hOuter
    rw [classify_eq_iff, outermost?_eq_some_iff,
      layers_built]
    exact Or.inl ⟨outer, inner, hLayers, hOuter⟩
  case internal =>
    intro hNone
    rw [← layers_built contexts base sources] at hNone
    rw [classify_of_no_error hNone]
    refine ⟨rfl, ?_, rfl⟩
    show ": ".intercalate
        (built contexts base sources).chain = _
    rw [chain_built]
  case notSource =>
    intro hNone found hSource hSame
    rw [← layers_built contexts base sources] at hNone
    rw [classify_of_no_error hNone] at hSame
    have hLonger :=
      length_lt_of_mem_sources contexts base hSource
    have hMessage :
        found.message =
          (built contexts base sources).message := by
      rw [← hSame]
      rfl
    have hTold :
        found.message.length ≤
          (Layer.told (.plugin found)).length := by
      unfold Layer.told
      rw [String.length_append]
      exact Nat.le_add_right _ _
    rw [← hMessage] at hLonger
    exact absurd hTold (Nat.not_le.2 hLonger)

/- Messages around a failure with an error are not told. -/
theorem classify_built_messages
    (texts : List String)
    {contexts : List Layer}
    {base : Layer}
    (hSome : ∃ found, .plugin found ∈ contexts ++ [base])
    (sources : List Layer) :
    (built (texts.map .message ++ contexts) base
        sources).classify =
      (built contexts base sources).classify := by
  have hOutermost :
      (built (texts.map .message ++ contexts) base
          sources).outermost? =
        (built contexts base sources).outermost? := by
    induction texts with
    | nil => rfl
    | cons text rest ih =>
        exact (outermost?_context_message text _).trans ih
  rw [classify_eq_iff, hOutermost]
  rcases (classify_eq_iff (built contexts base sources) _).1
    rfl with hFound | ⟨hNone, _⟩
  · exact Or.inl hFound
  · rw [outermost?_eq_none_iff, layers_built] at hNone
    rcases hSome with ⟨found, hMem⟩
    exact absurd hMem (hNone found)

end HandlerError

------------------------------------------------------------
-- Handlers That Fail
------------------------------------------------------------

/- The handler of a command is set, and fails. -/
def Handlers.FailsWith
    (handlers : Handlers)
    (command : Command)
    (args : Args)
    (stdout : Sink)
    (failure : HandlerError) : Prop :=
  ∃ handler,
    handlers.handler? command = some handler ∧
      (handler args stdout).result = .error failure

namespace Invocation

section Failures

variable {c : Collaborators} {plugin : Capabilities}
variable {command : Command} {args : Args}

/- Behind a negotiation the failure decides. -/
theorem perform_result_of_failsWith
    {session : Session}
    (hPasses :
      Negotiation.Passes c plugin session.decodings
        args.config command)
    {handlers : Handlers}
    {failure : HandlerError}
    (hFails :
      handlers.FailsWith command args session.stdout
        failure) :
    (perform c handlers plugin command args session).result =
      .error failure.classify := by
  rcases hFails with ⟨handler, hHandler, hFailure⟩
  have hPerformed :=
    perform_performed c handlers plugin command args session
  have hCalled :
      (command, args) ∈
        (perform c handlers plugin command args
          session).trace.calls := by
    rw [hPerformed.mem_calls_iff, hHandler]
    exact ⟨rfl, rfl, hPasses⟩
  rw [hPerformed.result_of_mem_calls hCalled hHandler]
  unfold resultBehind
  rw [hFailure]

/-
  A handler that fails is reported by the layers of its
  failure, and messages around an error change nothing.
-/
theorem perform_reports_failures
    (session : Session)
    (hPasses :
      Negotiation.Passes c plugin session.decodings
        args.config command)
    (contexts : List HandlerError.Layer)
    (base : HandlerError.Layer)
    (sources : List HandlerError.Layer)
    (handlers : Handlers)
    (hFails :
      handlers.FailsWith command args session.stdout
        (.built contexts base sources)) :
    ∃ e,
      (perform c handlers plugin command args
          session).result =
        .error e ∧
      HandlerError.Reports contexts base sources e ∧
      ((∃ found, .plugin found ∈ contexts ++ [base]) →
        ∀ (texts : List String) (others : Handlers),
          others.FailsWith command args session.stdout
              (.built (texts.map .message ++ contexts) base
                sources) →
            (perform c others plugin command args
                session).result =
              .error e) := by
  refine
    ⟨_, perform_result_of_failsWith hPasses hFails,
      HandlerError.classify_reports contexts base sources,
      ?_⟩
  intro hSome texts others hOthers
  rw [perform_result_of_failsWith hPasses hOthers,
    HandlerError.classify_built_messages texts hSome]

end Failures

/- A failure whose only error is below its root. -/
def buriedContexts : List HandlerError.Layer :=
  [.message "attach", .message "link"]

def buriedSources : List HandlerError.Layer :=
  [.message "no route",
    .plugin ⟨.invalidNamespace, "gone", "eth0"⟩]

/- Handlers of which the one for ADD fails so. -/
def buryingHandlers : Handlers :=
  { add :=
      some
        (.silent fun _ =>
          .error
            (.built buriedContexts (.message "down")
              buriedSources)) }

/- Arguments with a configuration without a version. -/
def unversionedArgs : Args :=
  .ofEnvironment .empty (Utf8.encode "\x7b\x7d")

/- The error below the root is told, and not reported. -/
theorem perform_reports_buried :
    Negotiation.Passes { namespaces := fun _ => .ok true }
        .legacy 0 unversionedArgs.config .add ∧
      buryingHandlers.FailsWith .add unversionedArgs {}
        (.built buriedContexts (.message "down")
          buriedSources) ∧
      ∃ e,
        (perform { namespaces := fun _ => .ok true }
            buryingHandlers .legacy .add unversionedArgs
            {}).result =
          .error e ∧
        e.code.number = 999 ∧
        e.message =
          "attach: link: down: no route: gone; eth0" ∧
        e.details = "" := by
  have hPasses :
      Negotiation.Passes { namespaces := fun _ => .ok true }
        .legacy 0 unversionedArgs.config .add :=
    ⟨⟨"0.1.0"⟩, by decide +kernel, by decide +kernel⟩
  have hFails :
      buryingHandlers.FailsWith .add unversionedArgs {}
        (.built buriedContexts (.message "down")
          buriedSources) :=
    ⟨_, rfl, rfl⟩
  refine ⟨hPasses, hFails, ?_⟩
  rcases perform_reports_failures {} hPasses _ _ _ _
      hFails with
    ⟨e, hResult, hReports, _⟩
  have hNone :
      ∀ found,
        HandlerError.Layer.plugin found ∉
          buriedContexts ++ [.message "down"] := by
    simp [buriedContexts]
  rcases hReports.internal hNone with
    ⟨hCode, hMessage, hDetails⟩
  refine ⟨e, hResult, hCode, ?_, hDetails⟩
  rw [hMessage]
  decide +kernel

end Invocation

end NetPlugin
