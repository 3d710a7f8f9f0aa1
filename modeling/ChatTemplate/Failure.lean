import ChatTemplate.Span

/-!
Why a compilation fails. A `Cause` says what is wrong, a `Failure` adds the place in the template,
and a `HostFailure` is what a host function reports.
-/

set_option autoImplicit false

namespace ChatTemplate

/-- What is wrong. Texts name the offending variable, tag, operator, kind of value or detail. -/
inductive Cause where
  | unboundIdentifier (name : String)
  | notCallable (found : String)
  | callError (message : String)
  | invalidOperator (operator : String)
  | typeMismatch (detail : String)
  | propertyOfNull (key : String)
  | invalidObjectKey (found : String)
  | invalidAssignment (found : String)
  | notIterable (found : String)
  | nestedMessage
  | unmatchedMessageClose
  | contentOutsideMessage
  | nestedContent
  | unmatchedContentClose
  | toolCallOutsideMessage
  | toolCallOutsideAssistantMessage (role : String)
  | unclosedMessage
  | unclosedContent
  | emptyMessage (role : String)
  | strayTextOutsideMessage
  | unknownTag (name : String)
  | invalidMessageRole (role : String)
  | invalidContentType (kind : String)
  | missingAttribute (tag name : String)
  | reservedAttribute (tag name : String)
  | invalidToolCall (detail : String)
  | cancelled (reason : String)
  | invalidConfig (detail : String)
  deriving DecidableEq

namespace Cause

/-- The name of the cause for programs. -/
def code : Cause → String
  | .unboundIdentifier _ => "unbound-identifier"
  | .notCallable _ => "not-callable"
  | .callError _ => "call-error"
  | .invalidOperator _ => "invalid-operator"
  | .typeMismatch _ => "type-mismatch"
  | .propertyOfNull _ => "property-of-null"
  | .invalidObjectKey _ => "invalid-object-key"
  | .invalidAssignment _ => "invalid-assignment"
  | .notIterable _ => "not-iterable"
  | .nestedMessage => "nested-message"
  | .unmatchedMessageClose => "unmatched-message-close"
  | .contentOutsideMessage => "content-outside-message"
  | .nestedContent => "nested-content"
  | .unmatchedContentClose => "unmatched-content-close"
  | .toolCallOutsideMessage => "tool-call-outside-message"
  | .toolCallOutsideAssistantMessage _ => "tool-call-outside-assistant-message"
  | .unclosedMessage => "unclosed-message"
  | .unclosedContent => "unclosed-content"
  | .emptyMessage _ => "empty-message"
  | .strayTextOutsideMessage => "stray-text-outside-message"
  | .unknownTag _ => "unknown-tag"
  | .invalidMessageRole _ => "invalid-message-role"
  | .invalidContentType _ => "invalid-content-type"
  | .missingAttribute .. => "missing-attribute"
  | .reservedAttribute .. => "reserved-attribute"
  | .invalidToolCall _ => "invalid-tool-call"
  | .cancelled _ => "cancelled"
  | .invalidConfig _ => "invalid-config"

/-- The text of the cause for people. -/
def message : Cause → String
  | .unboundIdentifier name => "Variable '" ++ name ++ "' is not declared"
  | .notCallable found => "Object is not callable, found " ++ found
  | .callError message => "Error calling function: " ++ message
  | .invalidOperator operator => "Unsupported operator: " ++ operator
  | .typeMismatch detail => "Type mismatch: " ++ detail
  | .propertyOfNull key => "Cannot read property '" ++ key ++ "' of null"
  | .invalidObjectKey found => "Invalid object key: " ++ found
  | .invalidAssignment found => "Invalid assignment target: " ++ found
  | .notIterable found => "Value is not iterable: " ++ found
  | .nestedMessage => "Message tags cannot be nested"
  | .unmatchedMessageClose => "Closing message tag without an open message"
  | .contentOutsideMessage => "Content tags must be inside a message"
  | .nestedContent => "Content tags cannot be nested"
  | .unmatchedContentClose => "Closing content tag without an open content block"
  | .toolCallOutsideMessage => "Tool calls must be inside a message"
  | .toolCallOutsideAssistantMessage role =>
      "Tool calls are only allowed in assistant messages, found a " ++ role ++ " message"
  | .unclosedMessage => "Message tag is never closed"
  | .unclosedContent => "Content tag is never closed"
  | .emptyMessage role => "The " ++ role ++ " message has no content"
  | .strayTextOutsideMessage => "Text outside of a message is not allowed"
  | .unknownTag name => "Unknown tag: <" ++ name ++ ">"
  | .invalidMessageRole role => "Invalid message role: " ++ role
  | .invalidContentType kind => "Invalid content type: " ++ kind
  | .missingAttribute tag name => "<" ++ tag ++ "> requires a '" ++ name ++ "' attribute"
  | .reservedAttribute tag name =>
      "<" ++ tag ++ "> cannot set '" ++ name ++ "', it is a message field"
  | .invalidToolCall detail => "Invalid tool call: " ++ detail
  | .cancelled reason => "Compilation cancelled: " ++ reason
  | .invalidConfig detail => "Invalid config: " ++ detail

end Cause

/-- A cause and, where it is known, the node that it arose at. -/
structure Failure where
  cause : Cause
  span : Option Span := none
  deriving DecidableEq

namespace Failure

/-- The failure with a place: the given one unless it has one already. -/
def orAt (failure : Failure) (span : Span) : Failure :=
  { failure with span := failure.span.or (some span) }

/-- The text of the failure for people; the place is no part of it. -/
def message (failure : Failure) : String :=
  failure.cause.message

end Failure

/-- What a host function reports instead of a value: a failure of a compilation of its own, which
keeps its cause and its place, or a message. -/
inductive HostFailure where
  | compilation (inner : Failure)
  | message (text : String)
  deriving DecidableEq

namespace HostFailure

/-- The text of the report for people. -/
def text : HostFailure → String
  | .compilation inner => inner.message
  | .message text => text

def atCall (report : HostFailure) (span : Span) : Failure :=
  match report with
  | .compilation inner => inner.orAt span
  | .message text => ⟨.callError text, some span⟩

end HostFailure

end ChatTemplate
