/-!
# Kinds of messages

The first byte of a datagram tells what a client asks for, or how the server answers. A byte that
names no kind is labelled `UNKNOWN`.
-/

namespace TeamPresence

/-- What a client asks for. -/
inductive RequestKind
  | register
  | updateStatus
  | teamStatus
  | description
deriving Repr, DecidableEq

namespace RequestKind

def code : RequestKind → UInt8
  | register => 1
  | updateStatus => 2
  | teamStatus => 3
  | description => 4

def ofCode? (n : Int) : Option RequestKind :=
  if n = 1 then some register
  else if n = 2 then some updateStatus
  else if n = 3 then some teamStatus
  else if n = 4 then some description
  else none

def label : RequestKind → String
  | register => "NET_ID_REQUEST"
  | updateStatus => "STATUS_UPDATE"
  | teamStatus => "TEAM_STATUS_REQUEST"
  | description => "SERVER_DESCRIPTION_REQUEST"

/-- The label of a number that may name a kind of request. -/
def labelOf (n : Int) : String := ((ofCode? n).map label).getD "UNKNOWN"

@[simp] theorem ofCode?_code (k : RequestKind) : ofCode? k.code.toNat = some k := by
  cases k <;> rfl

end RequestKind

/-- How the server answers. -/
inductive ReplyKind
  | error
  | registered
  | description
  | teamStatus
  | updated
deriving Repr, DecidableEq

namespace ReplyKind

def code : ReplyKind → UInt8
  | error => 1
  | registered => 2
  | description => 3
  | teamStatus => 4
  | updated => 5

def ofCode? (n : Int) : Option ReplyKind :=
  if n = 1 then some error
  else if n = 2 then some registered
  else if n = 3 then some description
  else if n = 4 then some teamStatus
  else if n = 5 then some updated
  else none

def label : ReplyKind → String
  | error => "ERROR"
  | registered => "ACK_NEW_USER"
  | description => "SERVER_DESCRIPTION"
  | teamStatus => "TEAM_STATUS"
  | updated => "ACK_STATUS_UPDATE"

def labelOf (n : Int) : String := ((ofCode? n).map label).getD "UNKNOWN"

@[simp] theorem ofCode?_code (k : ReplyKind) : ofCode? k.code.toNat = some k := by
  cases k <;> rfl

end ReplyKind

end TeamPresence
