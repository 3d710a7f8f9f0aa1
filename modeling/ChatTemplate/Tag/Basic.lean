import ChatTemplate.Failure
import ChatTemplate.Message.Basic

/-!
The tags that a template may use. A message tag is `message` with an attribute `role`, or has the
name of a role; a content tag is `content` with an attribute `type`, or has the name of a kind of
content; `tool-call` declares a tool call.
-/

set_option autoImplicit false

namespace ChatTemplate

/-- What a tag is. A role or kind that the name does not give has to be an attribute. -/
inductive Tag where
  | message (role : Option Role)
  | content (kind : Option ContentKind)
  | toolCall
  deriving DecidableEq

def Tag.ofName (name : String) : Except Cause Tag :=
  match name with
  | "message" => .ok (.message none)
  | "content" => .ok (.content none)
  | "tool-call" => .ok .toolCall
  | _ =>
      match Role.ofName? name, ContentKind.ofName? name with
      | some role, _ => .ok (.message (some role))
      | none, some kind => .ok (.content (some kind))
      | none, none => .error (.unknownTag name)

end ChatTemplate
