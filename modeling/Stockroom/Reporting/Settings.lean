import Stockroom.Event
import Stockroom.Reporting.Collections
import Stockroom.Reporting.Join
import Stockroom.Store.Deadline
import Stockroom.Text.Blank

/-!
# Settings

Settings are read from variables. Blanks around a value do not count, and a value of blanks alone is
no value. A value that cannot be read leaves the default in force and is noticed in an event.
-/

namespace Stockroom

/-- The settings of the reporting service and its store. -/
structure Settings where
  databaseUrl : Option String := none
  collections : Collections := {}
  /-- The milliseconds that a store call may take, zero for any time. -/
  timeout : Nat := 3000
  join : ForeignKeyJoin := .allRecords
  deriving DecidableEq

namespace Settings

/-- The variable with the URL of the database. -/
def databaseUrlVariable : String := "REPORTS_DATABASE_URL"

/-- The variable with the name of the inventory collection. -/
def inventoryVariable : String := "REPORTS_INVENTORY_COLLECTION"

/-- The variable with the name of the metric collection. -/
def metricVariable : String := "REPORTS_METRIC_COLLECTION"

/-- The variable with the name of the device collection. -/
def deviceVariable : String := "REPORTS_DEVICE_COLLECTION"

/-- The variable with the name of the report collection. -/
def reportVariable : String := "REPORTS_REPORT_COLLECTION"

/-- The variable with the time-out of store calls in milliseconds. -/
def timeoutVariable : String := "REPORTS_STORE_TIMEOUT_MS"

/-- The variable with the name of the join. -/
def joinVariable : String := "REPORTS_FOREIGN_KEY_JOIN"

/-- Variables as the function from names to values. -/
abbrev Lookup := String → Option String

/-- The value of a variable without blanks around it, if any is left. -/
def value? (lookup : Lookup) (name : String) : Option String :=
  ((lookup name).map Text.trim).filter (· != "")

/-- The time-out that the variables ask for. -/
def readTimeout (lookup : Lookup) : Nat :=
  match (value? lookup timeoutVariable).map Text.readNat64 with
  | some (.ok milliseconds) => milliseconds
  | _ => ({} : Settings).timeout

/-- The join that the variables ask for. -/
def readJoin (lookup : Lookup) : ForeignKeyJoin :=
  ((value? lookup joinVariable).bind ForeignKeyJoin.ofName?).getD ({} : Settings).join

/-- The collections that the variables ask for. -/
def readCollections (lookup : Lookup) : Collections :=
  let defaults : Collections := {}
  { inventory := (value? lookup inventoryVariable).getD defaults.inventory
    metric := (value? lookup metricVariable).getD defaults.metric
    device := (value? lookup deviceVariable).getD defaults.device
    report := (value? lookup reportVariable).getD defaults.report }

/-- The settings that the variables ask for. -/
def ofLookup (lookup : Lookup) : Settings where
  databaseUrl := value? lookup databaseUrlVariable
  collections := readCollections lookup
  timeout := readTimeout lookup
  join := readJoin lookup

/-- What is noticed about the time-out. -/
def timeoutEvents (lookup : Lookup) : List Event :=
  match value? lookup timeoutVariable with
  | none => []
  | some raw =>
    match Text.readNat64 raw with
    | .ok _ => []
    | .error reason =>
      [⟨.warn, "invalid store timeout, using default",
        [("variable", timeoutVariable), ("value", raw), ("error", reason.message)]⟩]

/-- What is noticed about the join. -/
def joinEvents (lookup : Lookup) : List Event :=
  match value? lookup joinVariable with
  | none => []
  | some raw =>
    if (ForeignKeyJoin.ofName? raw).isSome then []
    else
      [⟨.warn, "unknown join mode, using default", [("variable", joinVariable), ("value", raw)]⟩]

/-- What is noticed while the settings are read. -/
def events (lookup : Lookup) : List Event :=
  timeoutEvents lookup ++ joinEvents lookup

/-- The options of one store call that starts at a moment. -/
def callOptions (settings : Settings) (now : Nat) : CallOptions :=
  if settings.timeout = 0 then .unbounded else .withTimeout now settings.timeout

end Settings

end Stockroom
