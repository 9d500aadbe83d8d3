import TeamPresence.Limits
import TeamPresence.Number.Numeral
import TeamPresence.Text.Latin1
import TeamPresence.Text.Quoted
import TeamPresence.Wire.Kind

/-!
# Faults

Every way in which an operation fails, as its cause; `Fault.message` puts the causes into words. A
fault is a *refusal* if it is about the protocol, the directory, a session or the settings. A server
answers a refusal with its words. What is not a refusal is a breakdown, and gets no answer.
-/

namespace TeamPresence

/-- Why bytes cannot be read as a message. -/
inductive Malformed
  /-- A datagram too short for its header and a body, or too long. -/
  | datagramSize (size : Nat)
  | listMissing (delimiter : String)
  | teamStatusSize (size : Nat)
  /-- A team status body with another count of names than of slots. -/
  | teamStatusNames (names slots : Nat)
  | networkIdText (text : String)
deriving Repr, DecidableEq

/-- A field of one byte in a header. -/
inductive HeaderField
  | messageType
  | teamId
  | status
deriving Repr, DecidableEq

/-- Why a header cannot be built. -/
inductive HeaderFault
  | byteField (field : HeaderField) (value : Int)
  | networkId (value : Int)
deriving Repr, DecidableEq

/-- Why a name or an entry of a list is refused. -/
inductive NameFault
  /-- An entry that is longer than a slot. -/
  | slotOverflow (entry : String)
  /-- A delimiter without its mark. -/
  | unmarkedDelimiter (delimiter : String)
  | markedIdentifier (identifier : String)
  | team (name : String)
  | status (name : String)
  | user (name : String)
deriving Repr, DecidableEq

/-- Why a team ID is refused. -/
inductive TeamFault
  /-- Neither a team nor the sign for none. -/
  | update (id : Int)
  /-- No team to look at. -/
  | view (id : Int)
deriving Repr, DecidableEq

/-- The two lists of names that a server is set up with. -/
inductive NameList
  | teams
  | statuses
deriving Repr, DecidableEq

/-- Why settings are refused. -/
inductive SettingsFault
  /-- A directory with too few or too many names of a kind. -/
  | directoryCount (list : NameList) (count : Nat)
  /-- Server settings with too few or too many names of a kind. -/
  | listCount (list : NameList) (count : Nat)
  | listName (list : NameList) (name : String)
  | listsRequired
  | displayNameRequired
  | displayName (name : String)
  | hostRequired
  | port
  /-- A network ID that cannot have been assigned. -/
  | networkId (value : Int)
  | timeout
  | attempts
  | notInteger (key text : String)
  | notBoolean (key text : String)
  | notNumber (key text : String)
deriving Repr, DecidableEq

/-- Why an operation failed. -/
inductive Fault
  | malformed (why : Malformed)
  | header (why : HeaderFault)
  | body (limit : Nat)
  | name (why : NameFault)
  | unknownUser (id : Nat)
  | team (why : TeamFault)
  | status (value : Int)
  | usersFull
  | teamFull (id : Int)
  | unknownKind
  /-- A message of one kind is read as another. -/
  | unexpectedKind (actual expected : UInt8)
  /-- No reply of the expected kind came. -/
  | unanswered (expected : Int) (attempts : Nat)
  /-- The server refused a request, in these words. -/
  | rejected (text : String)
  | closed
  | settings (why : SettingsFault)
  | unencodable (gap : Latin1.Gap)
  /-- A status vector with a value that is no byte. -/
  | byteRange
  /-- A team status with different counts of names and statuses. -/
  | uneven (names statuses : Nat)
  | severity (label : String)
  /-- The network refused to send or to bind, in these words. -/
  | transport (text : String)
  /-- The registration memo has nothing left to forget. -/
  | memoExhausted
  /-- Not an answer of the protocol: a retry without end was cut off after so many packets as it was
  given (`Net.budget`). -/
  | sendLimit
  | choice (text : String) (why : Numeral.Refusal)
  | noSuchTeam
  | noSuchEntry
deriving Repr, DecidableEq

def HeaderField.label : HeaderField → String
  | messageType => "message_type"
  | teamId => "team_id"
  | status => "status"

def Malformed.message : Malformed → String
  | datagramSize size => "Cannot read malformed message of " ++ toString size ++ " bytes"
  | listMissing delimiter => "Delimiter " ++ delimiter ++ " not found in description"
  | teamStatusSize size => "Team status body of " ++ toString size ++ " bytes is malformed"
  | teamStatusNames names slots =>
    "Team status lists " ++ toString names ++ " names for " ++ toString slots ++ " slots"
  | networkIdText text => "Invalid network ID in reply: " ++ Text.quote text

def HeaderFault.message : HeaderFault → String
  | byteField field value =>
    "Header field " ++ field.label ++ "=" ++ toString value ++ " does not fit in a byte"
  | networkId value => "Invalid network ID: " ++ toString value

/-- The words that describe a valid name, before the name at fault. -/
def identifierRule : String :=
  " should consist of 1 to 16 letters, numbers, and spaces. The name \""

def NameFault.message : NameFault → String
  | slotOverflow entry => "Entry " ++ Text.quote entry ++ " does not fit in a 16 byte slot"
  | unmarkedDelimiter delimiter => "Delimiter " ++ Text.quote delimiter ++ " must start with '#'"
  | markedIdentifier identifier =>
    "Identifier " ++ Text.quote identifier ++ " may not start with '#'"
  | team name => "Team names" ++ identifierRule ++ name ++ "\" is invalid."
  | status name => "Statuses" ++ identifierRule ++ name ++ "\" is invalid."
  | user name =>
    "Usernames must be between 1 and 16 letters, numbers and spaces. \"" ++ name ++
      "\" is not a valid username."

def TeamFault.message : TeamFault → String
  | update id => "Invalid team ID: " ++ toString id
  | view id => "Invalid Team ID: " ++ toString id

/-- A list's name in the middle of a sentence. -/
def NameList.label : NameList → String
  | teams => "teams"
  | statuses => "statuses"

/-- A list's name at the start of a sentence. -/
def NameList.title : NameList → String
  | teams => "Teams"
  | statuses => "Statuses"

def NameList.limit : NameList → Nat
  | teams => maxTeams
  | statuses => maxStatuses

/-- What the names given to a directory are called when they are counted. -/
def NameList.counted : NameList → String
  | teams => "team names"
  | statuses => "statuses"

def SettingsFault.message : SettingsFault → String
  | directoryCount list count =>
    "Server supports between 1 and " ++ toString list.limit ++ " " ++ list.label ++ ", " ++
      toString count ++ " " ++ list.counted ++ " were given"
  | listCount list count =>
    "Server supports between 1 and " ++ toString list.limit ++ " " ++ list.label ++ ", " ++
      toString count ++ " were given"
  | listName list name => list.title ++ identifierRule ++ name ++ "\" is invalid."
  | listsRequired =>
    "SERVER_TEAMS and SERVER_STATUSES environment variables are required. " ++
      "Example: SERVER_TEAMS=\"The A Team/The B Team\" " ++
      "SERVER_STATUSES=\"Busy/Asleep/Working Hard\""
  | displayNameRequired =>
    "CLIENT_DISPLAY_NAME environment variable is required. " ++
      "Example: CLIENT_DISPLAY_NAME=\"JohnnyCash\""
  | displayName name => "User names" ++ identifierRule ++ name ++ "\" is invalid."
  | hostRequired => "Server host is required"
  | port => "Server port must be between 1 and 65535"
  | networkId value => "Invalid network ID: " ++ toString value
  | timeout => "Timeout must be positive"
  | attempts => "Max attempts must be at least 1"
  | notInteger key text => key ++ " must be a valid integer, got: " ++ text
  | notBoolean key text => key ++ " must be a boolean, got: " ++ text
  | notNumber key text => key ++ " must be a number, got: " ++ text

def gapMessage (g : Latin1.Gap) : String :=
  if g.length = 1 then
    "'latin-1' codec can't encode character '" ++ String.ofList (Text.escapeCode g.first.toNat) ++
      "' in position " ++ toString g.start ++ ": ordinal not in range(256)"
  else
    "'latin-1' codec can't encode characters in position " ++ toString g.start ++ "-" ++
      toString (g.start + g.length - 1) ++ ": ordinal not in range(256)"

/-- The words for a choice that cannot be read; a long one is shown in part. -/
def choiceMessage (text : String) : Numeral.Refusal → String
  | .tooLong digits =>
    "Exceeds the limit (" ++ toString Numeral.maxDigits ++
      " digits) for integer string conversion: value has " ++ toString digits ++
      " digits; use sys.set_int_max_str_digits() to increase the limit"
  | .malformed =>
    "invalid literal for int() with base 10: " ++
      String.ofList ((Text.quote text).toList.take 200)

def Fault.message : Fault → String
  | malformed why => why.message
  | header why => why.message
  | body limit => "Message body must be between 1 and " ++ toString limit ++ " bytes"
  | name why => why.message
  | unknownUser id => "Cannot resolve invalid user ID: " ++ toString id
  | team why => why.message
  | status value => "Invalid status: " ++ toString value
  | usersFull =>
    "Could not create new user, this server has reached its limit of users supported"
  | teamFull id => "Team " ++ toString id ++ " is full"
  | unknownKind => "Could not process request - Invalid client message type"
  | unexpectedKind actual expected =>
    "Attempted to read type " ++ toString actual.toNat ++ " message as type " ++
      toString expected.toNat ++ " message."
  | unanswered expected attempts =>
    "No " ++ ReplyKind.labelOf expected ++ " reply after " ++ toString attempts ++ " attempts"
  | rejected text => text
  | closed => "Session is not open. Call open() first"
  | settings why => why.message
  | unencodable gap => gapMessage gap
  | byteRange => "bytes must be in range(0, 256)"
  | uneven names statuses =>
    "Got " ++ toString names ++ " names but " ++ toString statuses ++ " statuses"
  | severity label => "Invalid log level: " ++ label
  | transport text => text
  | memoExhausted => ""
  | sendLimit => ""
  | choice text why => choiceMessage text why
  | noSuchTeam => "tuple index out of range"
  | noSuchEntry => "list index out of range"

/-- A fault about the protocol, the directory, a session or the settings. -/
def Fault.isRefusal : Fault → Bool
  | malformed _ | header _ | body _ | name _ | unknownUser _ | team _ | status _ | usersFull
  | teamFull _ | unknownKind | unexpectedKind _ _ | unanswered _ _ | rejected _ | closed
  | settings _ => true
  | unencodable _ | byteRange | uneven _ _ | severity _ | transport _ | memoExhausted | sendLimit
  | choice _ _ | noSuchTeam | noSuchEntry => false

end TeamPresence
