import Conveyor.Registry
import Conveyor.Stock.Agent

/-!
The agent types that this library can register, each under its name: those for use (`with_builtins`),
those for tests of chains (`register_test_agents`), and those that follow a script.
-/

namespace Conveyor

open Testing

namespace Catalog

/-- A constructor of leaves that uses the identity it is given. -/
def leaf (create : Identity → StockAgent) : Constructor StockAgent :=
  fun _ identity _ => .leaf (create identity)

/-- A constructor of leaves that keeps only the id it is given: the agent has a type of its own and
is started now. -/
def leafNow (create : String → Instant → StockAgent) : Constructor StockAgent :=
  fun _ identity now => .leaf (create identity.agentId now)

/-- The name of the type of composite agents. -/
def compositeName : String := "composite-agent"

/-- The types for use. -/
def builtins : List (String × Constructor StockAgent) := [
  (PassThrough.typeName, leaf fun identity => .passThrough (.ofIdentity identity)),
  (Discard.typeName, leaf fun identity => .discard (.ofIdentity identity)),
  (SetHeader.typeName, leaf fun identity => .setHeader (.ofIdentity identity)),
  (LogSink.typeName, leaf fun identity => .logSink (.ofIdentity identity)),
  (compositeName, fun registry identity _ => Agent.emptyComposite identity registry)]

/-- The types for tests of chains. -/
def testAgents : List (String × Constructor StockAgent) := [
  (Echo.typeName, leaf fun identity => .echo (.ofIdentity identity)),
  (Duplicate.typeName, leaf fun identity => .duplicate (.ofIdentity identity)),
  (Failing.typeName, leafNow fun agentId now => .failing (.create agentId .always "failed" now)),
  (Panicking.typeName, leafNow fun agentId now => .panicking (.create agentId now)),
  (RecordingSink.typeName, leaf fun identity => .recordingSink (.ofIdentity identity)),
  (StaticSource.typeName, leaf fun identity => .staticSource (.ofIdentity identity []))]

/-- The types that note their calls or follow a script, over a pool of records. -/
def scriptedAgents (pool : List Handle) : List (String × Constructor StockAgent) := [
  (Probe.typeName, leafNow fun agentId now => .probe (.create agentId false false now)),
  ("bad-start", leafNow fun agentId now => .probe (.create agentId true false now)),
  ("bad-close", leafNow fun agentId now => .probe (.create agentId false true now)),
  ("scripted", leaf fun identity => .scripted (.ofIdentity .processor pool identity)),
  ("scripted-source", leaf fun identity => .scripted (.ofIdentity .source pool identity)),
  ("scripted-sink", leaf fun identity => .scripted (.ofIdentity .sink pool identity)),
  ("bare", leaf fun identity => .bare (.ofIdentity pool identity)),
  ("inert", leaf fun identity => .inert ⟨identity⟩)]

/-- All types of this library. -/
def all (pool : List Handle) : List (String × Constructor StockAgent) :=
  builtins ++ testAgents ++ scriptedAgents pool

end Catalog

end Conveyor
