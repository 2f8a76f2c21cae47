import Workflow.Record.Suspension
import Workflow.Value.Json

/-!
# What the schedule keeps of a request

A change on the schedule is kept as a text: the request without its date, in JSON. `Config.text`
writes it, `Config.ofText?` reads it, looking at the members of `Config.outline` and passing over
all others.
-/

namespace Workflow.Suspension

/-- A request without its date. -/
structure Config where
  /-- The kind of resource. -/
  target : Target
  /-- The state the resources are to have. -/
  state : SuspensionState
  /-- Which resources. -/
  selectors : Selectors
  /-- Whether resources that depend on them change too. -/
  dependents : Bool
  deriving DecidableEq, Repr

namespace Config

/-- The names of the members. -/
def names : List String := ["target", "state", "selectors", "includeSubResources"]

/-- What is kept of a request. -/
def ofRequest (r : Request) : Config := ⟨r.target, r.state, r.selectors, r.dependents⟩

/-- The request to be made when the date has come. -/
def toRequest (c : Config) : Request :=
  { Request.new c.target c.state with selectors := c.selectors, dependents := c.dependents }

/-- The record, members in order. -/
def toValue (c : Config) : Value :=
  .members [
    ("target", c.target.toValue),
    ("state", c.state.toValue),
    ("selectors", .members c.selectors.named),
    ("includeSubResources", .bool c.dependents)]

/-- What a record says. -/
def ofValue? (v : Value) : Option Config := do
  match ← v.parts? names with
  | [target, state, selectors, dependents] =>
    return {
      target := ← part Target.ofValue? target
      state := ← part SuspensionState.ofValue? state
      selectors := ← part Selectors.ofValue? selectors
      dependents := ← part Value.asBool? dependents }
  | _ => none

/-- The text that is kept. -/
def text (c : Config) : String := c.toValue.json

/-- What is of interest in a text. -/
def outline : Outline :=
  .only (names.map fun name =>
    (name, if name = "selectors" then .ofNames (SelectorKind.values.map (·.field)) else .all))

/-- What a text says. -/
def ofText? (s : String) : Option Config := (Value.document? outline s).bind ofValue?

end Config

end Workflow.Suspension
