import LspWire.Json.Basic

/-! Layers of settings.
A layer is a document laid on top of another: objects are joined key by key, and any other value
hides what is below it. A null says nothing. -/

namespace LspWire

namespace Members

def erase (members : Members) (name : String) : Members :=
  members.filter fun member => member.1 != name

/-- Puts a value under a name, or nothing at all when the value is null. -/
def put (members : Members) (name : String) (value : Json) : Members :=
  if value.isNull then Members.erase members name else Members.insert name value members

end Members

namespace Json

mutual

/-- What is seen of `lower` with `upper` on top. -/
def stack (lower : Json) : (upper : Json) → Json
  | .null => lower
  | .object above =>
    match lower with
    | .object below => .object (stackMembers below above)
    | _ => .object above
  | upper => upper

def stackMembers (below : List (String × Json)) : (above : List (String × Json)) →
    List (String × Json)
  | [] => below
  | (name, value) :: above =>
    let joined := match Members.get? below name with
      | some held => stack held value
      | none => value
    stackMembers (Members.put below name joined) above

end

theorem stack_null (lower : Json) : lower.stack .null = lower := by simp [stack]

end Json

end LspWire
