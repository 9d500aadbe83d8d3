/-!
# Limits

The sizes and sentinel values on which both ends of the protocol agree, and the names that a team, a
status or a user may have: one to sixteen letters, digits and spaces of ASCII.
-/

namespace TeamPresence

/-- The longest datagram; messages are never split. -/
def maxDatagram : Nat := 1024

/-- The bytes of one slot of a list, and the longest name. -/
def slotSize : Nat := 16

/-- The team byte that stands for no team. -/
def noTeam : Int := 0xff

/-- The status byte that stands for no status. -/
def noStatus : Int := 0xff

/-- The network ID that stands for none assigned. Assigned ones stay below it. -/
def noNetworkId : Nat := 0xffffff

def requestHeaderSize : Nat := 6

def maxRequestBody : Nat := maxDatagram - requestHeaderSize

def replyHeaderSize : Nat := 1

def maxReplyBody : Nat := maxDatagram - replyHeaderSize

def maxTeams : Nat := 20

def maxStatuses : Nat := 20

def defaultRosterSize : Nat := 50

/-- The number of addresses whose last registration is remembered, unless another is asked for. -/
def defaultMemory : Nat := 1024

/-! ## Identifiers -/

/-- A letter, a digit or a space. -/
def isIdentifierChar (c : Char) : Bool := c.isAlphanum || c == ' '

/-- A name that a team, a status or a user may have. -/
def isIdentifier (s : String) : Bool :=
  1 ≤ s.toList.length && s.toList.length ≤ slotSize && s.toList.all isIdentifierChar

end TeamPresence
