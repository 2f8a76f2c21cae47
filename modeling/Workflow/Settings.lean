import Workflow.Record
import Workflow.Toml

/-!
# Settings

The settings of an engine, with a value of its own for everything that is not said. They are
written as a record or as a TOML document.
-/

namespace Workflow

/-- How an engine is to behave. -/
structure Settings where
  /-- Whether permissions are enforced. -/
  enforced : Bool := false
  /-- Whether deferred jobs are looked for all the time. -/
  loop : Bool := false
  /-- How many milliseconds pass before deferred jobs are looked for again. -/
  interval : Nat := 5000
  /-- How many deferred jobs are taken at once. -/
  batch : Nat := 3
  /-- What is reported. -/
  logLevel : String := "info"
  /-- Whether reports say where they come from. -/
  logTarget : Bool := false
  deriving DecidableEq, Repr

namespace Settings

/-- What can be wrong with settings. -/
inductive Fault where
  /-- No deferred job would ever be taken. -/
  | noBatch
  /-- No time would pass between two looks. -/
  | noInterval
  /-- They are not a document, or a value is of the wrong kind. -/
  | unreadable
  deriving DecidableEq, Repr

/-- What is wrong, in words. -/
def Fault.message : Fault → String
  | noBatch => "Invalid configuration: job_executor.max_jobs_per_acquisition must be at least 1"
  | noInterval => "Invalid configuration: job_executor.acquisition_interval_ms must be at least 1"
  | unreadable => "Invalid configuration"

/-- The settings, if an engine can work by them. -/
def checked (s : Settings) : Except Fault Settings :=
  if s.batch = 0 then .error .noBatch
  else if s.interval = 0 then .error .noInterval
  else .ok s

/-! ## Records -/

/-- The record of settings. -/
def toValue (s : Settings) : Value :=
  .object [
    ("authorization", .object [("enabled", .bool s.enforced)]),
    ("job_executor", .object [
      ("enabled", .bool s.loop),
      ("acquisition_interval_ms", .integer s.interval),
      ("max_jobs_per_acquisition", .integer s.batch)]),
    ("logging", .object [
      ("level", .text s.logLevel),
      ("with_target", .bool s.logTarget)])]

/-- What a section on permissions adds to settings. -/
def authorizationOf? (s : Settings) (v : Value) : Option Settings := do
  match ← v.partsFrom? 0 ["enabled"] with
  | [enforced] => return { s with enforced := ← defaultPart s.enforced Value.asBool? enforced }
  | _ => none

/-- What a section on deferred jobs adds to settings. -/
def jobsOf? (s : Settings) (v : Value) : Option Settings := do
  match ← v.partsFrom? 0 ["enabled", "acquisition_interval_ms", "max_jobs_per_acquisition"] with
  | [loop, interval, batch] =>
    return { s with
      loop := ← defaultPart s.loop Value.asBool? loop
      interval := ← defaultPart s.interval Value.asWord64? interval
      batch := ← defaultPart s.batch Value.asWord64? batch }
  | _ => none

/-- What a section on reports adds to settings. -/
def loggingOf? (s : Settings) (v : Value) : Option Settings := do
  match ← v.partsFrom? 0 ["level", "with_target"] with
  | [level, target] =>
    return { s with
      logLevel := ← defaultPart s.logLevel Value.asText? level
      logTarget := ← defaultPart s.logTarget Value.asBool? target }
  | _ => none

/-- The settings of a record. -/
def ofValue? (v : Value) : Option Settings := do
  match ← v.partsFrom? 0 ["authorization", "job_executor", "logging"] with
  | [authorization, jobs, logging] =>
    let s : Settings := {}
    let s ← defaultPart s s.authorizationOf? authorization
    let s ← defaultPart s s.jobsOf? jobs
    defaultPart s s.loggingOf? logging
  | _ => none

/-! ## Documents -/

/-- A section of a document may be a list, of which the items beyond its settings are not looked
at. -/
def withoutSurplus : Value → Value
  | .members named =>
    let sizes := [("authorization", 1), ("job_executor", 3), ("logging", 2)]
    .members (named.map fun (name, v) =>
      match v, sizes.lookup name with
      | .list items, some size => (name, .list (items.take size))
      | v, _ => (name, v))
  | v => v

/-- The settings of a document. -/
def ofToml (text : String) : Except Fault Settings :=
  match ((Value.ofToml? text).map withoutSurplus).bind ofValue? with
  | some s => s.checked
  | none => .error .unreadable

end Settings

end Workflow
