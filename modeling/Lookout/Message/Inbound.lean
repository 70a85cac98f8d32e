import Lookout.Error
import Lookout.Message.Request

/-!
# Inbound messages

Every text of the device is a JSON object, which the application gets whole.  Two codes are for
the link and never reach it.

## Main definitions

* `Inbound` — an inbound message, `Inbound.ofText` — reads one.
* `Inbound.kind`, `Inbound.requestKind` — its code.
* `Inbound.route` — who it is for.
-/

namespace Lookout

/-- A message of the device. -/
structure Inbound where
  body : Json

/-- Who a message is for. -/
inductive Route where
  /-- the link: the device is about to close it -/
  | serverClosing
  /-- the link: another console has taken over -/
  | superseded
  | application (message : Inbound)

namespace Inbound

/-- Reads a text; only an object is a message. -/
def ofText (text : String) : Except Error Inbound :=
  match Json.parse? text with
  | none => .error (.malformed .json)
  | some (.object members) => .ok ⟨.object members⟩
  | some body => .error (.parse (.notAnObject body.article))

/-- The code of a message, if it has one that is a whole number. -/
def kind (message : Inbound) : Option Int := (message.body.get? "kind").bind Json.asInt64?

/-- The request that the code stands for, if it is a known one. -/
def requestKind (message : Inbound) : Option RequestKind := message.kind.bind RequestKind.ofCode?

/-- Who the message is for. -/
def route (message : Inbound) : Route :=
  if message.kind = some LinkCode.serverClosing then .serverClosing
  else if message.kind = some LinkCode.superseded then .superseded
  else .application message

end Inbound

end Lookout
