import ChatTemplate.Proofs.Accounting
import ChatTemplate.Proofs.Compilation

/-!
Where failures are located. Every failure of a compilation that has not been cut off has a place. It
is a place in the template, unless the host has reported it with a place of its own. Causes that
show late are located where they arise: at the tag that is still open, or at the first text outside
of any message.
-/

set_option autoImplicit false

namespace ChatTemplate

variable {σ : Type}

/-- A report has a place once it is the failure of a call: its own, or that of the call. -/
theorem HostFailure.place_of_atCall (report : HostFailure) (span : Span) :
    ∃ place, (report.atCall span).span = some place ∧
      (place = span ∨ ∃ cause, report = .compilation ⟨cause, some place⟩) := by
  rcases report with ⟨cause, _ | place⟩ | text
  · exact ⟨span, rfl, .inl rfl⟩
  · exact ⟨place, rfl, .inr ⟨cause, rfl⟩⟩
  · exact ⟨span, rfl, .inl rfl⟩

namespace Template

/-- What stands at the place of a cause that shows late, in view of the log of the walk. -/
def Explains (template : Template) (settings : Settings) (log : List Draft.Operation)
    (place : Span) : Cause → Prop
  | .unclosedMessage =>
      ∃ name implied attributes children closed role fields,
        .element name attributes children closed place ∈ template.nodes ∧
          Tag.ofName name = .ok (.message implied) ∧
          Draft.LastIn log (.openMessage role fields place) [.closeMessage]
  | .unclosedContent =>
      ∃ name implied attributes children closed kind,
        .element name attributes children closed place ∈ template.nodes ∧
          Tag.ofName name = .ok (.content implied) ∧
          Draft.LastIn log (.openContent kind place) [.closeContent, .closeMessage]
  | .strayTextOutsideMessage =>
      (Draft.ofSettings settings).FirstStray log place ∧
        ((∃ data, .text data place ∈ template.nodes) ∨
          ∃ expression, .interpolation expression place ∈ template.nodes)
  | _ => True

/-- A failure has a place. Either the host has reported it last, and it is the report of a call in
the template; or the host has reported nothing, and the place is one in the template which explains
the cause. -/
def Located (template : Template) (settings : Settings) (machine : Machine σ)
    (log : List Draft.Operation) (failure : Failure) (place : Span) : Prop :=
  failure.span = some place ∧
    ((∃ calls call, machine.history.toList = calls ++ FailedCall.events call ∧
        call.site ∈ template.expressions ∧ failure = call.report.atCall call.place ∧
          (template.HasPlace place ∨ ∃ cause, call.report = .compilation ⟨cause, some place⟩)) ∨
      (∀ event ∈ machine.history.toList, event.Calm) ∧ template.HasPlace place ∧
        template.Explains settings log place failure.cause)

private theorem explains_of_not_belated (template : Template) (settings : Settings)
    (log : List Draft.Operation) (place : Span) {cause : Cause} (prompt : ¬ cause.Belated) :
    template.Explains settings log place cause := by
  cases cause with
  | unclosedMessage | unclosedContent | strayTextOutsideMessage => exact absurd trivial prompt
  | _ => trivial

section Explains

variable {template : Template} {settings : Settings} {log : List Draft.Operation} {place : Span}

private theorem explains_unclosedMessage (done : template.DoesAll log) {role : Role}
    {fields : Dict Json}
    (last : Draft.LastIn log (.openMessage role fields place) [.closeMessage]) :
    template.HasPlace place ∧ template.Explains settings log place .unclosedMessage := by
  obtain ⟨-, node, member, does⟩ := done _ last.mem
  cases does with
  | openMessage tag =>
      refine ⟨.inl ⟨_, member, rfl⟩, ?_⟩
      exact ⟨_, _, _, _, _, role, fields, member, tag, last⟩

private theorem explains_unclosedContent (done : template.DoesAll log) {kind : ContentKind}
    (last : Draft.LastIn log (.openContent kind place) [.closeContent, .closeMessage]) :
    template.HasPlace place ∧ template.Explains settings log place .unclosedContent := by
  obtain ⟨-, node, member, does⟩ := done _ last.mem
  cases does with
  | openContent tag =>
      refine ⟨.inl ⟨_, member, rfl⟩, ?_⟩
      exact ⟨_, _, _, _, _, kind, member, tag, last⟩

private theorem explains_stray (done : template.DoesAll log)
    (first : (Draft.ofSettings settings).FirstStray log place) :
    template.HasPlace place ∧ template.Explains settings log place .strayTextOutsideMessage := by
  obtain ⟨text, added⟩ := first.mem
  obtain ⟨-, node, member, does⟩ := done _ added
  cases does with
  | text data => exact ⟨.inl ⟨_, member, rfl⟩, first, .inl ⟨_, member⟩⟩
  | value expression => exact ⟨.inl ⟨_, member, rfl⟩, first, .inr ⟨_, member⟩⟩

end Explains

/-- What a walk from the start of a compilation fails with is located. -/
theorem located_of_walk {template : Template} {settings : Settings} {before final : Walk σ}
    {failure : Failure} (start : before.draft = .ofSettings settings)
    (silent : before.machine.history = #[]) (fresh : before.operations = #[])
    (failed : (Walk.accounting template).failed before final failure) :
    ∃ place, template.Located settings final.machine final.operations.toList failure place := by
  rcases failed with ⟨call, broken⟩ | ⟨⟨events, history, calm⟩, located | refused⟩
  · obtain ⟨site, ⟨calls, history, calm⟩, rfl, -⟩ := broken
    rw [silent, List.nil_append] at history
    obtain ⟨place, span, own | carried⟩ := call.report.place_of_atCall call.place
    · have known : template.HasPlace place := own ▸ .inr ⟨_, site, rfl⟩
      exact ⟨place, span, .inl ⟨calls, call, history, site, rfl, .inl known⟩⟩
    · exact ⟨place, span, .inl ⟨calls, call, history, site, rfl, .inr carried⟩⟩
  · obtain ⟨prompt, place, span, known⟩ := located
    rw [silent, List.nil_append] at history
    refine ⟨place, span, .inr ⟨by rwa [history], known, ?_⟩⟩
    exact template.explains_of_not_belated settings _ place prompt
  · obtain ⟨operations, reached, node, operation, cause, refused⟩ := refused
    obtain ⟨log, applied, done, member, does, walked, refuses, rfl⟩ := refused
    rw [silent, List.nil_append] at history
    rw [fresh, List.nil_append] at log
    rw [start] at applied
    rw [log]
    rcases Draft.refused_at node.span (fun operation member => (done operation member).1) applied
      refuses with ⟨prompt, span⟩ | ⟨rfl, place, known, first⟩
    · refine ⟨node.span, congrArg some span, .inr ⟨by rwa [history], .inl ⟨node, member, rfl⟩, ?_⟩⟩
      exact template.explains_of_not_belated settings _ _ prompt
    · have stray := first.append operation
      have all : template.DoesAll (operations ++ [operation]) := by
        refine done.append ?_
        simpa [DoesAll] using ⟨walked, node, member, does⟩
      obtain ⟨placed, explains⟩ := explains_stray all stray
      refine ⟨place, ?_, .inr ⟨by rwa [history], placed, explains⟩⟩
      rw [known]
      rfl

/-- What the end of a document fails with is located. -/
theorem located_of_finish {template : Template} {settings : Settings} {before final : Walk σ}
    {failure : Failure} (start : before.draft = .ofSettings settings)
    (silent : before.machine.history = #[]) (fresh : before.operations = #[])
    (kept : (Walk.accounting template).kept before final)
    (failed : final.draft.finish = .error failure) :
    ∃ place, template.Located settings final.machine final.operations.toList failure place := by
  obtain ⟨⟨events, history, calm⟩, -, operations, log, applied, done⟩ := kept
  rw [silent, List.nil_append] at history
  rw [fresh, List.nil_append] at log
  rw [start] at applied
  obtain ⟨place, span, explained⟩ :=
    Draft.finish_error (fun operation member => (done operation member).1) applied failed
  obtain ⟨cause, span'⟩ := failure
  rw [log]
  refine ⟨place, span, .inr ⟨by rwa [history], ?_⟩⟩
  rcases explained with ⟨rfl, kind, last⟩ | ⟨rfl, role, fields, last⟩ | ⟨rfl, first⟩
  · exact explains_unclosedContent done last
  · exact explains_unclosedMessage done last
  · exact explains_stray done first

/-- Every compilation that fails without having been cut off fails at a place. -/
theorem failures_located {settings : Settings} {registry : Registry} {host : Host σ} {now : Int}
    {interruption : Interruption σ} {template : Template} {scope : Scope} {world : σ}
    {machine : Machine σ} {failure : Failure}
    (compiled : template.compileWithin settings registry host now interruption scope world =
      (machine, some (.error failure)))
    (uncancelled : ∀ reason, failure.cause ≠ .cancelled reason) :
    ∃ (final : Walk σ) (walked : Except Failure Unit) (place : Span),
      (template.walk host settings.implicitDeclarations
        (.starting settings registry now scope world)).outcome = (final, some walked) ∧
      final.machine = machine ∧
      template.Located settings machine final.operations.toList failure place := by
  obtain ⟨final, walked, ended, rfl, result⟩ := walked_of_compileWithin compiled (by
    rintro reason ⟨⟩
    exact uncancelled reason rfl)
  have accounts := (template.walk_accounts host settings.implicitDeclarations).ended ended
  cases walked with
  | ok =>
      obtain ⟨place, located⟩ := located_of_finish rfl rfl rfl accounts result.symm
      exact ⟨final, _, place, ended, rfl, located⟩
  | error reported =>
      cases result
      obtain ⟨place, located⟩ := located_of_walk rfl rfl rfl accounts
      exact ⟨final, _, place, ended, rfl, located⟩

/-- Text in front of a message; the first text is blank. -/
def strayGreeting : Template :=
  .fragment [.text " " ⟨0, 1⟩, .text "Be kind." ⟨1, 9⟩,
    .element "user" [] [.text "Hi" ⟨15, 17⟩] true ⟨9, 24⟩] ⟨0, 24⟩

/-- The compilation of the template where text outside of any message is refused. -/
def strayGreetingCompiled : Machine Unit × Option (Except Failure (List Message)) :=
  strayGreeting.compileWithin { rootText := .reject } {} Host.silent 0
    ⟨false, fun _ => false, fun _ _ => false⟩ Scope.empty ()

theorem strayGreeting_located :
    strayGreetingCompiled.2 = some (.error ⟨.strayTextOutsideMessage, some ⟨1, 9⟩⟩) ∧
      ∃ log, strayGreeting.Located { rootText := .reject } strayGreetingCompiled.1 log
        ⟨.strayTextOutsideMessage, some ⟨1, 9⟩⟩ ⟨1, 9⟩ := by
  have failed : strayGreetingCompiled.2 =
      some (.error ⟨.strayTextOutsideMessage, some ⟨1, 9⟩⟩) := rfl
  have compiled : strayGreetingCompiled = (strayGreetingCompiled.1, _) := Prod.ext rfl failed
  obtain ⟨final, walked, place, ended, same, located⟩ := failures_located compiled nofun
  cases located.1
  exact ⟨failed, _, located⟩

end Template

end ChatTemplate
