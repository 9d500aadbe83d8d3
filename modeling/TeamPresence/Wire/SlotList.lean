import TeamPresence.Wire.Slot

/-!
# Lists of slots

A description is a run of slots: a delimiter opens a list, and the identifiers of the list follow
until the next delimiter or the end. `pack` writes lists one after the other, `unpack` reads the
identifiers of the first list with a given delimiter.
-/

namespace TeamPresence.Wire

/-- A named list of identifiers. -/
structure Category where
  delimiter : String
  identifiers : List String
deriving Repr, DecidableEq

def packIdentifiers : List String → Except Fault Bytes
  | [] => .ok []
  | name :: rest => do
    if isMarked name then throw (.name (.markedIdentifier name))
    let slot ← slotOf name
    let slots ← packIdentifiers rest
    return slot ++ slots

def packCategory (c : Category) : Except Fault Bytes := do
  if !isMarked c.delimiter then throw (.name (.unmarkedDelimiter c.delimiter))
  let slot ← slotOf c.delimiter
  let slots ← packIdentifiers c.identifiers
  return slot ++ slots

def packCategories : List Category → Except Fault Bytes
  | [] => .ok []
  | c :: rest => do
    let slots ← packCategory c
    let others ← packCategories rest
    return slots ++ others

/-- The bytes that close a description. -/
def terminator (terminate : Bool) : Bytes := if terminate then [Latin1.byteOf mark] else []

/-- A description of the given lists, closed by a single mark if `terminate` is set. -/
def pack (categories : List Category) (terminate : Bool) : Except Fault Bytes := do
  let slots ← packCategories categories
  return slots ++ terminator terminate

/-- The identifiers of the first `n` slots, up to the next delimiter. -/
def identifiersFrom : Nat → Bytes → List String
  | 0, _ => []
  | n + 1, body =>
    if isMarked (slotText body) then []
    else slotText body :: identifiersFrom n (body.drop slotSize)

/-- The identifiers after the first of `n` slots that holds the delimiter. -/
def identifiersAfter? (delimiter : String) : Nat → Bytes → Option (List String)
  | 0, _ => none
  | n + 1, body =>
    if slotText body = delimiter then some (identifiersFrom n (body.drop slotSize))
    else identifiersAfter? delimiter n (body.drop slotSize)

/-- The identifiers of the first list with the given delimiter. Only whole slots are read. -/
def unpack (body : Bytes) (delimiter : String) : Except Fault (List String) :=
  match identifiersAfter? delimiter (slotCount body) body with
  | some names => .ok names
  | none => .error (.malformed (.listMissing delimiter))

def teamsDelimiter : String := "#TEAMS"

def statusesDelimiter : String := "#STATUSES"

def usersDelimiter : String := "#USERS"

/-- The body that describes a server: its teams, then its statuses. -/
def packDescription (teams statuses : List String) : Except Fault Bytes :=
  pack [⟨teamsDelimiter, teams⟩, ⟨statusesDelimiter, statuses⟩] true

end TeamPresence.Wire
