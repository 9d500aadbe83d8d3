import TeamPresence.Fault

/-!
# Journals

A program tells what it does in records. A journal shows the records from a severity on, one line
for each, and is set up by the name of that severity. A program that ends tells why in records, if
its settings are refused or a fault ends it.
-/

namespace TeamPresence

/-- How much a record matters. -/
inductive Severity
  | debug
  | info
  | warning
  | error
  | critical
deriving Repr, DecidableEq

/-- The rank of a severity; greater matters more. -/
def Severity.rank : Severity → Nat
  | debug => 10
  | info => 20
  | warning => 30
  | error => 40
  | critical => 50

def Severity.label : Severity → String
  | debug => "DEBUG"
  | info => "INFO"
  | warning => "WARNING"
  | error => "ERROR"
  | critical => "CRITICAL"

/-- The upper case of a character, as far as it is a letter of ASCII. -/
def upperChar (c : Char) : Char :=
  if c = 'ı' then 'I' else if c = 'ſ' then 'S' else c.toUpper

def upperName (name : String) : String := String.ofList (name.toList.map upperChar)

def Severity.ofName? (name : String) : Option Severity :=
  match upperName name with
  | "DEBUG" => some debug
  | "INFO" => some info
  | "WARNING" | "WARN" => some warning
  | "ERROR" => some error
  | "CRITICAL" | "FATAL" => some critical
  | _ => none

/-- Something that a part of a program tells. -/
structure Record where
  source : String
  severity : Severity
  message : String
deriving Repr, DecidableEq

/-- The name of a source in a line. All sources lie under the one called `root`, which has no name
of its own. -/
def sourceLabel (source : String) : String := if source.isEmpty then "root" else source

def Record.line (time : String) (r : Record) : String :=
  time ++ " - " ++ sourceLabel r.source ++ " - " ++ r.severity.label ++ " - " ++ r.message ++ "\n"

def thresholdOf? (name : String) : Option Nat :=
  if upperName name = "NOTSET" then some 0 else (Severity.ofName? name).map Severity.rank

/-- Where records are shown, and from which rank on. -/
structure Journal (σ : Type) where
  sink : σ
  /-- The least rank that is shown. -/
  threshold : Nat
deriving Repr, DecidableEq

namespace Journal

variable {σ : Type}

/-- The journal that shows records from the severity with the given name on. -/
def setUp (sink : σ) (level : String) : Except Fault (Journal σ) :=
  match thresholdOf? level with
  | some threshold => .ok ⟨sink, threshold⟩
  | none => .error (.severity level)

def shows (j : Journal σ) (r : Record) : Bool := j.threshold ≤ r.severity.rank

def lines (j : Journal σ) (time : String) (records : List Record) : List String :=
  (records.filter j.shows).map (Record.line time)

end Journal

/-! ## Endings -/

/-- How a program ends. -/
inductive Ending
  | returned
  | exited (code : Nat)
  | fault (f : Fault)
deriving Repr, DecidableEq

/-- What a program tells when its settings are refused. -/
def refusedSettingsRecords (record : Severity → String → Record) (f : Fault) : List Record :=
  [record .error ("Configuration error: " ++ f.message),
    record .error ("Please check your environment variables. " ++
      "See .env.example for required configuration.")]

/-- What a program tells of a fault that it does not expect. -/
def unexpectedRecords (record : Severity → String → Record) (f : Fault) : List Record :=
  [record .error ("Unexpected error: " ++ f.message)]

end TeamPresence
