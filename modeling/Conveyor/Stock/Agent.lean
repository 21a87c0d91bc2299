import Conveyor.Agent.Tree
import Conveyor.Stock.LogSink
import Conveyor.Stock.Processors
import Conveyor.Testing.Ends
import Conveyor.Testing.Probe
import Conveyor.Testing.Processors
import Conveyor.Testing.Scripted

/-!
The agents of this library as one type, so that they can stand side by side in a chain. What a stock
agent does is what the agent in it does.
-/

namespace Conveyor

open Testing

/-- Any agent of this library that is not made of other agents. -/
inductive StockAgent where
  | passThrough (agent : PassThrough)
  | discard (agent : Discard)
  | setHeader (agent : SetHeader)
  | logSink (agent : LogSink)
  | echo (agent : Echo)
  | duplicate (agent : Duplicate)
  | failing (agent : Failing)
  | panicking (agent : Panicking)
  | partialAnswer (agent : Partial)
  | probe (agent : Probe)
  | recordingSink (agent : RecordingSink)
  | staticSource (agent : StaticSource)
  | scripted (agent : Scripted)
  | bare (agent : Bare)
  | inert (agent : Inert)

/-- An agent of some type together with the way back to a common type. -/
structure Facet (β : Type) where
  {carrier : Type}
  [hooks : Behaviour Environment carrier]
  [settings : Configurable Environment carrier]
  agent : carrier
  wrap : carrier → β

namespace Facet

attribute [instance] Facet.hooks Facet.settings

variable {β γ : Type}

/-- A call of the agent, whose new state is brought back to the common type. -/
def call (facet : Facet β)
    (hook : facet.carrier → Activity Environment (Reply facet.carrier γ)) :
    Activity Environment (Reply β γ) := do
  return (← hook facet.agent).mapAgent facet.wrap

end Facet

namespace StockAgent

/-- The records that a recording sink keeps. -/
def written? : StockAgent → Option (List Handle)
  | recordingSink sink => some sink.written
  | _ => none

/-- The ledger that a static source keeps. -/
def ledger? : StockAgent → Option SourceLedger
  | staticSource source => some source.ledger
  | _ => none

/-- The agent in a stock agent. -/
def facet : StockAgent → Facet StockAgent
  | passThrough agent => { agent, wrap := passThrough }
  | discard agent => { agent, wrap := discard }
  | setHeader agent => { agent, wrap := setHeader }
  | logSink agent => { agent, wrap := logSink }
  | echo agent => { agent, wrap := echo }
  | duplicate agent => { agent, wrap := duplicate }
  | failing agent => { agent, wrap := failing }
  | panicking agent => { agent, wrap := panicking }
  | partialAnswer agent => { agent, wrap := partialAnswer }
  | probe agent => { agent, wrap := probe }
  | recordingSink agent => { agent, wrap := recordingSink }
  | staticSource agent => { agent, wrap := staticSource }
  | scripted agent => { agent, wrap := scripted }
  | bare agent => { agent, wrap := bare }
  | inert agent => { agent, wrap := inert }

instance : Behaviour Environment StockAgent where
  agentId stock := Behaviour.agentId stock.facet.agent
  agentType stock := Behaviour.agentType stock.facet.agent
  status stock := Behaviour.status stock.facet.agent
  capabilities stock := Behaviour.capabilities stock.facet.agent
  setContext context stock := do
    return stock.facet.wrap (← Behaviour.setContext context stock.facet.agent)
  start stock := stock.facet.call Behaviour.start
  close stock := stock.facet.call Behaviour.close
  process records stock := stock.facet.call (Behaviour.process records)
  read stock := stock.facet.call Behaviour.read
  commit records stock := stock.facet.call (Behaviour.commit records)
  permanentFailure record error stock :=
    stock.facet.call (Behaviour.permanentFailure record error)
  write records stock := stock.facet.call (Behaviour.write records)

instance : Configurable Environment StockAgent where
  init configuration stock := stock.facet.call (Configurable.init configuration)

end StockAgent

end Conveyor
