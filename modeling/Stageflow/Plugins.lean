import Stageflow.Join.Plan
import Stageflow.Join.Rows
import Stageflow.Macros
import Stageflow.Sink.Task

/-!
# Plugins

Stages that compute, window, join or write by a plugin look it up by their name. A stage without its
plugin fails.

* `RecordFunction` are the functions on whole lists of records that plugins are built from.
-/

namespace Stageflow

/-- A function on a list of records. -/
inductive RecordFunction
  | identity
  | reverse
  | take (n : Nat)
  /-- One record, the number of records. -/
  | count
  /-- Arrays of so many records. -/
  | chunk (n : Nat)
  | fail (failure : Failure)
deriving DecidableEq, Inhabited

namespace RecordFunction

/-- The records that a function makes of some records. -/
def run : RecordFunction → List Json → Except Failure (List Json)
  | identity, rs => .ok rs
  | reverse, rs => .ok rs.reverse
  | take n, rs => .ok (rs.take n)
  | count, rs => .ok [.ofNat rs.length]
  | chunk n, rs => .ok ((chunks n rs).map .array)
  | fail f, _ => .error f

end RecordFunction

/-- What the plugin of a sink does with records: those it takes, if it takes any, and its ending. -/
abbrev SinkPlugin := List Json → Option (List Json) × Ending

namespace SinkPlugin

/-- Takes every record. -/
def collect : SinkPlugin := fun rs => (some rs, .done)

/-- Ends without taking records. -/
def endWith (ending : Ending) : SinkPlugin := fun _ => (none, ending)

end SinkPlugin

/-- A joiner: its configuration, and what happens when it is made ready for its inputs. -/
structure Joiner where
  config : JoinConfig
  prepare : List Name → Except Failure Unit

/-- The plugins by the stages that need them. -/
structure Plugins where
  computes : Table (List Json → Except Failure (List Json))
  windowers : Table (List Json → Except Failure (List Json))
  sinks : Table SinkPlugin
  joiners : Table Joiner

namespace Plugins

/-- No plugins. -/
def empty : Plugins := ⟨[], [], [], []⟩

/-- Looks a plugin up; the journal tells the argument that the macros offer. -/
def resolve {α : Type} (t : Table α) (role : PluginRole) (title : String) (m : MacroContext)
    (stage : Name) : Journaled Failure α := do
  .note (.called (.resolve role stage (m.lookup "arg")))
  match t.get? stage with
  | some plugin => return plugin
  | none => .fail (.of ("no " ++ title ++ " registered for stage '" ++ stage ++ "'"))

variable (ps : Plugins)

def compute := resolve ps.computes .compute "compute plugin"

def sink := resolve ps.sinks .sink "sink plugin"

def windower := resolve ps.windowers .windower "windower"

def joiner := resolve ps.joiners .joiner "joiner"

/-- The task of a sink with a plugin. -/
def sinkTask (stage : Name) (records : List Json) (plugin : SinkPlugin) : SinkTask :=
  let (taken, ending) := plugin records
  ⟨stage, records, taken.elim [] fun rs => [.collected stage rs], ending, false⟩

end Plugins

end Stageflow
