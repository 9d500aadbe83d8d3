import TeamPresence.Fault
import TeamPresence.Number.Decimal

/-!
# Environments

Settings are read from named texts. A name that is not set gets a default; a text that is set is
taken as it is, even an empty one.
-/

namespace TeamPresence

/-- Named texts. -/
structure Environment where
  entries : List (String × String)
deriving Repr, DecidableEq

namespace Environment

def get? (env : Environment) (key : String) : Option String :=
  (env.entries.find? fun e => e.1 == key).map Prod.snd

def getOr (env : Environment) (key fallback : String) : String := (env.get? key).getD fallback

/-- The text of a name, if it has any characters. -/
def nonempty? (env : Environment) (key : String) : Option String :=
  (env.get? key).filter fun text => !text.isEmpty

end Environment

/-- The parts of a text between separators. -/
def splitAtEach (separator : Char) : List Char → List (List Char)
  | [] => [[]]
  | c :: rest =>
    match splitAtEach separator rest with
    | part :: parts => if c = separator then [] :: part :: parts else (c :: part) :: parts
    | [] => [[c]]

/-- The names in a text, divided by slashes. Empty names are left out. -/
def readNames (text : String) : List String :=
  ((splitAtEach '/' text.toList).filter fun part => !part.isEmpty).map String.ofList

def readInteger (key text : String) : Except Fault Int :=
  match Numeral.integer text with
  | .ok n => .ok n
  | .error _ => .error (.settings (.notInteger key text))

def readNumber (key text : String) : Except Fault Binary64 :=
  match Decimal.read? text with
  | some x => .ok x
  | none => .error (.settings (.notNumber key text))

def yesWords : List String := ["1", "true", "yes", "on"]

def noWords : List String := ["0", "false", "no", "off"]

/-- Yes or no, in the text of a name. Case and white space around do not matter. -/
def readFlag (key text : String) : Except Fault Bool :=
  let word := String.ofList ((Text.strip text).toList.map Char.toLower)
  if yesWords.contains word then .ok true
  else if noWords.contains word then .ok false
  else .error (.settings (.notBoolean key text))

/-- Refuses a port that no endpoint can have. -/
def checkPort (port : Int) : Except Fault Unit :=
  if 1 ≤ port ∧ port ≤ 65535 then .ok () else .error (.settings .port)

/-- Refuses an empty host. -/
def checkHost (host : String) : Except Fault Unit :=
  if host.isEmpty then .error (.settings .hostRequired) else .ok ()

end TeamPresence
