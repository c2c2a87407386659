import NetPlugin.NetworkConfig
import NetPlugin.Proofs.Json.Compact
import NetPlugin.Proofs.Json.Records
import NetPlugin.Proofs.Json.Writing
import NetPlugin.Proofs.Stream.Sink
import NetPlugin.Version.Capabilities

/-
  The report of the VERSION command reads back.

  The report is one line, which names the revision and then
  the versions, in declaration order.  It is read as the capabilities it was made from,
  completed as every report is.  Whatever is read from some
  report is complete, and reads back unchanged.

  Main declarations:
    * `Capabilities.decode_text`
    * `Capabilities.isComplete_of_decode`
    * `Capabilities.line` and `Capabilities.report`
    * `Capabilities.encodeAll_printed`
    * `Capabilities.version_report`
    * `Capabilities.report_reads_back`
-/

------------------------------------------------------------
-- Fields
------------------------------------------------------------

namespace NetPlugin

open Json Version

/- A token is read from every text of it. -/
theorem Version.Token.read_text
    (token : Token)
    {text : Bytes}
    (hText : ValueText token.toJson text) :
    Reads Token.read token text :=
  (readText_text hText).bind_pure Token.mk

namespace Capabilities

/- The members of a report fill the fields. -/
theorem gathers_toJson
    {plugin : Capabilities}
    {text : Bytes}
    (hText : ValueText plugin.toJson text) :
    ∃ body,
      text =
          Mark.openObject :: (body ++ [Mark.closeObject]) ∧
        Gathers record.fields true {} body
          { revision := some plugin.revision
            supported := some plugin.supported } := by
  rcases hText.hasForm with ⟨body, rfl, hBody⟩
  refine ⟨body, rfl, ?_⟩
  cases hBody with
  | next hRevisionHead hRevision hMore =>
  cases hMore with
  | next hSupportedHead hSupported hMore =>
  cases hMore with
  | done hBlanks =>
      have hList :
          Reads (readList Token.read) plugin.supported _ :=
        readList_text Token.toJson
          (fun token _ _ hToken => token.read_text hToken)
          hSupported
      exact
        .store hRevisionHead rfl rfl (readText_text hRevision)
          rfl
          (.store hSupportedHead rfl rfl hList rfl
            (.done hBlanks))

/- Every text of a report is read as what made it. -/
theorem decode_text
    {plugin : Capabilities}
    {text : Bytes}
    (hText : ValueText plugin.toJson text)
    {before after : Bytes}
    (hBefore : IsBlanks before)
    (hAfter : IsBlanks after) :
    decode (before ++ (text ++ after)) = plugin.complete := by
  rcases gathers_toJson hText with ⟨body, rfl, hGathers⟩
  have hRead :=
    readDocument_text (Record.read_gathers hGathers rfl)
      hBefore hAfter
  unfold decode
  rw [hRead]
  rfl

------------------------------------------------------------
-- Completion
------------------------------------------------------------

/- What a complete report has. -/
def IsComplete (plugin : Capabilities) : Prop :=
  plugin.revision ≠ "" ∧ plugin.supported ≠ []

theorem complete_of_isComplete
    {plugin : Capabilities}
    (hComplete : plugin.IsComplete) :
    plugin.complete = .ok plugin := by
  unfold complete
  rw [if_neg hComplete.1, if_neg hComplete.2]

/- Reports of the one revision may leave out the list. -/
theorem complete_of_listless
    {plugin : Capabilities}
    (hRevision : plugin.revision = listlessRevision)
    (hNone : plugin.supported = []) :
    plugin.complete =
      .ok { plugin with supported := Version.legacy } := by
  have hNamed : plugin.revision ≠ "" := by
    rw [hRevision]
    decide
  unfold complete
  rw [if_neg hNamed, if_pos hNone, if_pos hRevision]

/- Other reports that lack something are refused. -/
theorem complete_of_not_isComplete
    {plugin : Capabilities}
    (hNot : ¬ plugin.IsComplete)
    (hListed :
      ¬ (plugin.revision = listlessRevision ∧
        plugin.supported = [])) :
    ∃ reason, plugin.complete = .error (.report reason) := by
  unfold complete
  by_cases hNamed : plugin.revision = ""
  · rw [if_pos hNamed]
    exact ⟨_, rfl⟩
  · have hNone : plugin.supported = [] :=
      Decidable.not_not.1 fun hSome => hNot ⟨hNamed, hSome⟩
    have hOther : plugin.revision ≠ listlessRevision :=
      fun hSame => hListed ⟨hSame, hNone⟩
    rw [if_neg hNamed, if_pos hNone, if_neg hOther]
    exact ⟨_, rfl⟩

/- Completion succeeds with something complete only. -/
theorem isComplete_of_complete
    {plugin completed : Capabilities}
    (hComplete : plugin.complete = .ok completed) :
    completed.IsComplete := by
  unfold complete at hComplete
  split at hComplete
  · cases hComplete
  · rename_i hNamed
    split at hComplete
    · split at hComplete
      · cases hComplete
        exact ⟨hNamed, List.cons_ne_nil _ _⟩
      · cases hComplete
    · rename_i hSome
      cases hComplete
      exact ⟨hNamed, hSome⟩

theorem isComplete_of_decode
    {bytes : Bytes}
    {plugin : Capabilities}
    (hDecode : decode bytes = .ok plugin) :
    plugin.IsComplete := by
  unfold decode at hDecode
  split at hDecode
  · cases hDecode
  · exact isComplete_of_complete hDecode

------------------------------------------------------------
-- Reports
------------------------------------------------------------

/- The one line of the report, with a line feed. -/
def line (plugin : Capabilities) : String :=
  "\x7b\"cniVersion\":" ++ literal plugin.revision ++
    ",\"supportedVersions\":[" ++
    ",".intercalate
      (plugin.supported.map fun token =>
        literal token.text) ++
    "]\x7d\n"

/- The bytes of the report. -/
def report (plugin : Capabilities) : Bytes :=
  Utf8.encode plugin.line

/- Two versions and a revision that needs an escape. -/
example :
    (Capabilities.mk "1\"" [⟨"0.1.0"⟩, ⟨"0.2.0"⟩]).line =
      "\x7b\"cniVersion\":\"1\\\"\"," ++
        "\"supportedVersions\":[\"0.1.0\",\"0.2.0\"]\x7d\n" := by
  decide +kernel

/- The line is the compact form with a line feed. -/
theorem line_eq (plugin : Capabilities) :
    plugin.line = plugin.toJson.text .compact ++ "\n" := by
  have hTokens :
      (plugin.supported.map Token.toJson).map
          (Value.text .compact) =
        plugin.supported.map fun token =>
          literal token.text := by
    rw [List.map_map]
    exact List.map_congr_left fun token _ =>
      Value.text_string token.text
  have hRevisionKey :
      literal revisionKey = "\"cniVersion\"" := by
    decide +kernel
  have hSupportedKey :
      literal supportedKey = "\"supportedVersions\"" := by
    decide +kernel
  have hOpened :
      "\x7b\"cniVersion\":" =
        "\x7b" ++ ("\"cniVersion\"" ++ ":") := by
    decide +kernel
  have hBetween :
      ",\"supportedVersions\":[" =
        "," ++ ("\"supportedVersions\"" ++ (":" ++ "[")) := by
    decide +kernel
  have hClosed : "]\x7d\n" = "]" ++ ("\x7d" ++ "\n") := by
    decide +kernel
  unfold line toJson
  rw [Value.text_object, hOpened, hBetween, hClosed]
  simp [-String.reduceAppend, Value.memberText,
    Value.text_string, Value.text_array, hTokens,
    hRevisionKey, hSupportedKey, String.append_assoc]

theorem report_eq (plugin : Capabilities) :
    plugin.report =
      Utf8.encodeAll (plugin.toJson.pieces .compact) ++
        Utf8.encodeAll ["\n"] := by
  unfold report
  rw [line_eq, Utf8.encode_append, encode_text]
  simp

/- What is printed is the report. -/
theorem encodeAll_printed (plugin : Capabilities) :
    Utf8.encodeAll plugin.printed = plugin.report := by
  rw [report_eq]
  exact Utf8.encodeAll_append _ _

/- How printing it ends, on every sink. -/
theorem encode_printing
    (plugin : Capabilities)
    (sink : Sink) :
    sink.Printing plugin.report (plugin.encode sink) := by
  rw [← encodeAll_printed]
  exact sink.printPieces_printing plugin.printed

theorem itemsHaveIntegers_tokens (tokens : List Token) :
    Value.itemsHaveIntegers (tokens.map Token.toJson) := by
  induction tokens with
  | nil => trivial
  | cons token tokens ih => exact ⟨trivial, ih⟩

theorem itemsDepth_tokens (tokens : List Token) :
    Value.itemsDepth (tokens.map Token.toJson) = 0 := by
  induction tokens with
  | nil => rfl
  | cons token tokens ih =>
      rw [List.map_cons, Value.itemsDepth, ih]
      rfl

theorem hasIntegers_toJson (plugin : Capabilities) :
    plugin.toJson.HasIntegers :=
  ⟨trivial, itemsHaveIntegers_tokens plugin.supported, trivial⟩

theorem depth_toJson (plugin : Capabilities) :
    plugin.toJson.depth ≤ depthLimit := by
  simp [toJson, Value.depth, Value.membersDepth,
    itemsDepth_tokens, depthLimit]

/- The decoder of reports reads the report. -/
theorem decode_report (plugin : Capabilities) :
    decode plugin.report = plugin.complete := by
  have hText :=
    valueText_pieces .compact 0 plugin.toJson
      plugin.hasIntegers_toJson
  have hDecode :=
    decode_text hText isBlanks_nil isBlanks_lineFeed
  rw [List.nil_append] at hDecode
  rw [report_eq]
  exact hDecode

/- The decoder of configurations reads the revision. -/
theorem version_report (plugin : Capabilities) :
    NetworkConfig.version plugin.report =
      .ok
        (if plugin.revision = "" then implicit
          else ⟨plugin.revision⟩) := by
  have hValue :
      Value.ofBytes plugin.report = .ok plugin.toJson := by
    rw [report_eq]
    exact
      Value.ofBytes_pieces .compact plugin.hasIntegers_toJson
        plugin.depth_toJson isBlanks_lineFeed
  have hText :
      NetworkConfig.textOf plugin.report
          NetworkConfig.versionKey =
        .ok plugin.revision := by
    unfold NetworkConfig.textOf NetworkConfig.members
    rw [hValue]
    rfl
  unfold NetworkConfig.version
  rw [hText]

/-
  The report of any capabilities, and what its two readers
  find in it; the second one takes it for a configuration.
-/
theorem report_reads_back :
    (∀ plugin : Capabilities,
      plugin.encode .unlimited =
          (.ok (), { written := plugin.report }) ∧
        (plugin.revision ≠ "" →
          plugin.supported ≠ [] →
          decode plugin.report = .ok plugin) ∧
        (plugin.revision = "0.2.0" →
          plugin.supported = [] →
          decode plugin.report =
            .ok ⟨"0.2.0", [⟨"0.1.0"⟩, ⟨"0.2.0"⟩]⟩) ∧
        (plugin.revision = "" ∨
            plugin.supported = [] ∧
              plugin.revision ≠ "0.2.0" →
          ∃ reason,
            decode plugin.report = .error (.report reason)) ∧
        NetworkConfig.version plugin.report =
          .ok
            (if plugin.revision = "" then ⟨"0.1.0"⟩
              else ⟨plugin.revision⟩)) ∧
      ∀ bytes plugin,
        decode bytes = .ok plugin →
        plugin.revision ≠ "" ∧
          plugin.supported ≠ [] ∧
          decode plugin.report = .ok plugin := by
  constructor
  · intro plugin
    refine ⟨?_, ?_, ?_, ?_, plugin.version_report⟩
    · rw [← encodeAll_printed]
      exact
        Sink.printPieces_of_isWritable ⟨rfl, rfl⟩
          plugin.printed
    · intro hNamed hSome
      rw [decode_report]
      exact complete_of_isComplete ⟨hNamed, hSome⟩
    · intro hRevision hNone
      rw [decode_report,
        complete_of_listless hRevision hNone, hRevision]
      rfl
    · intro hLacks
      rw [decode_report]
      apply complete_of_not_isComplete
      · rintro ⟨hNamed, hSome⟩
        rcases hLacks with hUnnamed | ⟨hNone, _⟩
        · exact hNamed hUnnamed
        · exact hSome hNone
      · rintro ⟨hRevision, _⟩
        rcases hLacks with hUnnamed | ⟨_, hOther⟩
        · rw [hRevision] at hUnnamed
          exact absurd hUnnamed (by decide)
        · exact hOther hRevision
  · intro bytes plugin hDecode
    have hComplete := isComplete_of_decode hDecode
    refine ⟨hComplete.1, hComplete.2, ?_⟩
    rw [decode_report]
    exact complete_of_isComplete hComplete

end Capabilities

end NetPlugin
