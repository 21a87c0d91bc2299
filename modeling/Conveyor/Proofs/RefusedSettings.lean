import Conveyor.Proofs.Catalog

/-! What a refused configuration leaves behind, when `init` has raised an error over it. Most agents take
over their settings only when all of them are good, and then a refusal leaves no trace: a leaf and its world
are as before, and a composite keeps the chain that it had. Two agents take over a first text before they
look at the next setting, a header its name and a failure its message, and that text stays although the
configuration was refused. Scripts, which belong to no type of the catalog, are taken over before anything
can be refused. -/
namespace Conveyor

open Testing

variable {β γ : Type}

/-- The text under a field, if there is one. -/
def Configuration.given? (configuration : Configuration) (field : String) : Option String :=
  match configuration.get? field with
  | some (.string text) => some text
  | _ => none

theorem Configuration.given?_of_ok {configuration : Configuration} {field : String} {text? : Option String}
    (read : configuration.optionalText field = .ok text?) : configuration.given? field = text? := by
  rcases optionalText_cases configuration field with ⟨read', found⟩ | ⟨text, read', found⟩ |
    ⟨error, _, read', -, -⟩
  · rw [read] at read'
    cases read'
    unfold given?
    grind
  · rw [read] at read'
    cases read'
    rw [given?, found]
  · rw [read] at read'
    cases read'

theorem Configuration.given?_of_error {configuration : Configuration} {field : String}
    {error : ConfigurationError} (read : configuration.optionalText field = .error error) :
    configuration.given? field = none := by
  rcases optionalText_cases configuration field with ⟨read', -⟩ | ⟨text, read', -⟩ |
    ⟨_, value, -, found, -, other⟩
  · rw [read] at read'
    cases read'
  · rw [read] at read'
    cases read'
  · rw [given?, found]
    cases value with
    | string text => exact absurd rfl (other text)
    | _ => rfl

namespace Environment

/-- Two worlds that differ in nothing but the number of the next new record, which does not go back. -/
structure OnlyNumbers (world after : Environment) : Prop where
  clock : after.clock = world.clock
  journal : after.journal = world.journal
  nextHandle : world.nextHandle ≤ after.nextHandle

theorem OnlyNumbers.refl (world : Environment) : OnlyNumbers world world := ⟨rfl, rfl, Nat.le_refl _⟩

theorem OnlyNumbers.trans {first second third : Environment} (one : OnlyNumbers first second)
    (other : OnlyNumbers second third) : OnlyNumbers first third where
  clock := other.clock.trans one.clock
  journal := other.journal.trans one.journal
  nextHandle := Nat.le_trans one.nextHandle other.nextHandle

end Environment

open Environment (OnlyNumbers)

namespace Activity

/-- An activity that makes new records at most. -/
def Discreet (activity : Activity Environment β) : Prop :=
  ∀ world, OnlyNumbers world (activity.effect world).2

theorem Discreet.pure (value : β) : Discreet (pure value) := fun world => .refl world

theorem Discreet.bind {first : Activity Environment β} {next : β → Activity Environment γ}
    (one : Discreet first) (other : ∀ value, Discreet (next value)) : Discreet (first >>= next) :=
  fun world => (one world).trans (other _ _)

theorem Discreet.log (event : LogEvent) : Discreet (log event) := fun world => .refl world

theorem Discreet.look : Discreet look := fun world => .refl world

theorem Discreet.allocate (record : Record) : Discreet (Environment.allocate record) :=
  fun _ => ⟨rfl, rfl, Nat.le_succ _⟩

theorem Discreet.mapM {activity : β → Activity Environment γ} (each : ∀ item, Discreet (activity item))
    (items : List β) : Discreet (items.mapM activity) := by
  induction items with
  | nil => exact .pure _
  | cons item rest ih =>
    rw [List.mapM_cons]
    exact (each item).bind fun first => ih.bind fun others => .pure _

end Activity

open Activity (Discreet)

namespace Attempt

/-- An attempt that makes new records at most, whether it succeeds or not. -/
def Discreet (attempt : Attempt Environment β) : Prop := Activity.Discreet attempt.run

theorem Discreet.pure (value : β) : Discreet (pure value) := Activity.Discreet.pure _

theorem Discreet.throw (fault : Fault FlowError) : Discreet (throw fault : Attempt Environment β) :=
  Activity.Discreet.pure _

theorem Discreet.of {activity : Activity Environment β} (discreet : Activity.Discreet activity) :
    Discreet (of activity) := discreet

theorem Discreet.bind {first : Attempt Environment β} {next : β → Attempt Environment γ}
    (one : Discreet first) (other : ∀ value, Discreet (next value)) : Discreet (first >>= next) := by
  refine Activity.Discreet.bind one fun value => ?_
  cases value with
  | ok value => exact other value
  | error fault => exact .pure _

theorem Discreet.mapM {attempt : β → Attempt Environment γ} (each : ∀ item, Discreet (attempt item))
    (items : List β) : Discreet (items.mapM attempt) := by
  induction items with
  | nil => exact .pure _
  | cons item rest ih =>
    rw [List.mapM_cons]
    exact (each item).bind fun first => ih.bind fun others => .pure _

theorem Discreet.mapM_option {attempt : β → Attempt Environment γ} (each : ∀ item, Discreet (attempt item))
    (side? : Option β) : Discreet (side?.mapM attempt) := by
  cases side? with
  | none => exact .pure _
  | some item => exact (each item).bind fun value => .pure _

end Attempt

namespace Testing

/-- A failure after a refused configuration: the message is taken over all the same. -/
def Failing.refusing (configuration : Configuration) (agent : Failing) : Failing :=
  { agent with message := (configuration.given? "message").getD agent.message }

theorem Failing.refusing_of_error {configuration : Configuration} {agent after : Failing}
    {error : ConfigurationError} (refused : configure configuration agent = (after, .error error)) :
    after = agent.refusing configuration := by
  unfold configure at refused
  unfold refusing
  cases message : configuration.optionalText "message" with
  | error =>
    rw [message] at refused
    cases refused
    rw [Configuration.given?_of_error message, Option.getD_none]
  | ok message? =>
    rw [message] at refused
    rw [Configuration.given?_of_ok message]
    cases value : configuration.optionalText "onValue" with
    | error =>
      rw [value] at refused
      cases refused
      rfl
    | ok value? =>
      rw [value] at refused
      cases value? <;> cases refused

theorem Failing.init_refused {configuration : Configuration} {agent : Failing} {world : Environment}
    {fault : Fault AgentError}
    (refused : ((Configurable.init configuration agent).effect world).1.result = .error fault) :
    (Configurable.init configuration agent).effect world =
      (⟨agent.refusing configuration, .error fault⟩, world) := by
  simp only [Configurable.init, Activity.effect_pure] at refused ⊢
  rcases taken : configure configuration agent with ⟨after, result⟩
  rw [taken] at refused
  cases result with
  | ok => cases refused
  | error error =>
    cases refused
    rw [refusing_of_error taken]
    rfl

/-- A source takes every configuration. -/
theorem StaticSource.init_takes (configuration : Configuration) (agent : StaticSource) (world : Environment) :
    ((Configurable.init configuration agent).effect world).1.result = .ok () := by
  simp only [Configurable.init]
  cases valuesOf configuration <;> rfl

/-- A script is taken over before it is asked. -/
theorem Scripted.init_refused {configuration : Configuration} {agent : Scripted} {world : Environment}
    {fault : Fault AgentError}
    (refused : ((Configurable.init configuration agent).effect world).1.result = .error fault) :
    (Configurable.init configuration agent).effect world =
      (⟨{ agent with script := .ofConfiguration configuration }, .error fault⟩, world) := by
  simp only [Configurable.init, act] at refused ⊢
  split at refused <;> cases refused <;> rfl

end Testing

/-- A header after a refused configuration: the name is taken over all the same. -/
def SetHeader.refusing (configuration : Configuration) (agent : SetHeader) : SetHeader :=
  { agent with name := (configuration.given? "name").getD agent.name }

theorem SetHeader.refusing_of_error {configuration : Configuration} {agent after : SetHeader}
    {error : ConfigurationError} (refused : configure configuration agent = (after, .error error)) :
    after = agent.refusing configuration := by
  unfold configure Configuration.requiredText at refused
  unfold refusing
  cases name : configuration.optionalText "name" with
  | error =>
    rw [name] at refused
    cases refused
    rw [Configuration.given?_of_error name, Option.getD_none]
  | ok name? =>
    rw [name] at refused
    rw [Configuration.given?_of_ok name]
    cases name? with
    | none =>
      cases refused
      rfl
    | some text =>
      -- From here on the name is taken over, whether it is empty or the value is missing.
      change (if text.isEmpty then _ else _) = _ at refused
      split at refused
      · cases refused
        rfl
      · split at refused
        · cases refused
          rfl
        · cases refused

theorem SetHeader.init_refused {configuration : Configuration} {agent : SetHeader} {world : Environment}
    {fault : Fault AgentError}
    (refused : ((Configurable.init configuration agent).effect world).1.result = .error fault) :
    (Configurable.init configuration agent).effect world =
      (⟨agent.refusing configuration, .error fault⟩, world) := by
  simp only [Configurable.init, Activity.effect_pure] at refused ⊢
  rcases taken : configure configuration agent with ⟨after, result⟩
  rw [taken] at refused
  cases result with
  | ok => cases refused
  | error error =>
    cases refused
    rw [refusing_of_error taken]
    rfl

/-- A sink of the log takes its level over only if there is such a level. -/
theorem LogSink.init_refused {configuration : Configuration} {agent : LogSink} {world : Environment}
    {fault : Fault AgentError}
    (refused : ((Configurable.init configuration agent).effect world).1.result = .error fault) :
    (Configurable.init configuration agent).effect world = (⟨agent, .error fault⟩, world) := by
  simp only [Configurable.init, Activity.effect_pure] at refused ⊢
  cases level : levelOf configuration with
  | ok level' =>
    rw [level] at refused
    cases refused
  | error error =>
    rw [level] at refused
    cases refused
    rfl

namespace StockAgent

/-- What a refused configuration leaves of an agent. -/
def refusing (configuration : Configuration) : StockAgent → StockAgent
  | setHeader agent => setHeader (agent.refusing configuration)
  | failing agent => failing (agent.refusing configuration)
  | scripted agent => scripted { agent with script := .ofConfiguration configuration }
  | agent => agent

/-- Whether a refused configuration leaves nothing behind in an agent. -/
def untouched : StockAgent → Bool
  | setHeader _ | failing _ | scripted _ => false
  | _ => true

theorem refusing_untouched {stock : StockAgent} (untouched : stock.untouched) (configuration : Configuration) :
    stock.refusing configuration = stock := by
  cases stock with
  | setHeader | failing | scripted => cases untouched
  | _ => rfl

/-- No configuration turns an agent into one of another type. -/
theorem init_untouched (configuration : Configuration) (stock : StockAgent) (world : Environment) :
    ((Configurable.init configuration stock).effect world).1.agent.untouched = stock.untouched := by
  have wrapped (inner : stock.facet.carrier) : (stock.facet.wrap inner).untouched = stock.untouched := by
    cases stock <;> rfl
  exact wrapped _

theorem init_discreet (configuration : Configuration) (stock : StockAgent) :
    Discreet (Configurable.init configuration stock) := by
  cases stock with
  | staticSource agent =>
    have discreet : Discreet (Configurable.init configuration agent) := by
      simp only [Configurable.init]
      cases StaticSource.valuesOf configuration with
      | none => exact .pure _
      | some values => exact (Discreet.mapM (fun value => .allocate _) values).bind fun batch => .pure _
    exact discreet.bind fun reply => .pure _
  | scripted agent =>
    have discreet : Discreet (Configurable.init configuration agent) := by
      simp only [Configurable.init, Scripted.act]
      split <;> exact .pure _
    exact discreet.bind fun reply => .pure _
  | _ => exact Discreet.bind (.pure _) fun reply => .pure _

/-- A refused configuration leaves the world alone, and of the agent what `refusing` says. -/
theorem refused_effect {configuration : Configuration} {stock : StockAgent} {world : Environment}
    {fault : Fault AgentError}
    (refused : ((Configurable.init configuration stock).effect world).1.result = .error fault) :
    (Configurable.init configuration stock).effect world =
      (⟨stock.refusing configuration, .error fault⟩, world) := by
  cases stock with
  | setHeader agent =>
    exact congrArg (fun done => (done.1.mapAgent setHeader, done.2)) (SetHeader.init_refused refused)
  | failing agent =>
    exact congrArg (fun done => (done.1.mapAgent failing, done.2)) (Failing.init_refused refused)
  | logSink agent =>
    exact congrArg (fun done => (done.1.mapAgent logSink, done.2)) (LogSink.init_refused refused)
  | scripted agent =>
    exact congrArg (fun done => (done.1.mapAgent scripted, done.2)) (Scripted.init_refused refused)
  | staticSource agent =>
    have taken := StaticSource.init_takes configuration agent world
    cases taken.symm.trans refused
  | _ => cases refused

end StockAgent

namespace Agent

variable (registries : Registries StockAgent)

/-- What a refused configuration leaves of an agent. A composite keeps its chain. -/
def refusing (configuration : Configuration) : Agent StockAgent → Agent StockAgent
  | leaf stock => leaf (stock.refusing configuration)
  | composite identity registry chain => composite identity registry chain

/-- Whether a refused configuration leaves nothing behind in an agent. -/
def untouched : Agent StockAgent → Bool
  | leaf stock => stock.untouched
  | composite .. => true

theorem refusing_untouched {agent : Agent StockAgent} (untouched : agent.untouched)
    (configuration : Configuration) : agent.refusing configuration = agent := by
  cases agent with
  | leaf stock => exact congrArg leaf (StockAgent.refusing_untouched untouched configuration)
  | composite => rfl

/-- Agents are constructed without a trace in the world if those inside them are. -/
theorem constructFor_discreet {configure : Configurer Environment StockAgent}
    (discreet : ∀ configuration agent, Discreet (configure configuration agent)) (key : RegistryKey)
    (startedAt : Instant) (component : Component) (definition : AgentDefinition) :
    Attempt.Discreet (constructFor configure registries key startedAt component definition) := by
  have made : Attempt.Discreet (constructBy configure registries key startedAt definition) := by
    unfold constructBy
    split
    · exact .throw _
    · refine Attempt.Discreet.bind (.of .look) fun world => ?_
      refine Attempt.Discreet.bind (.of (discreet _ _)) fun reply => ?_
      split
      · exact .throw _
      · exact .throw _
      · exact Attempt.Discreet.bind (.of (.log _)) fun _ => .pure _
  refine made.bind fun agent => ?_
  split
  · exact .pure _
  · exact .throw _

theorem initComposite_discreet {configure : Configurer Environment StockAgent}
    (discreet : ∀ configuration agent, Discreet (configure configuration agent)) (configuration : Configuration)
    (identity : Identity) (registry : RegistryKey) (chain : Chain (Agent StockAgent)) :
    Discreet (initComposite configure registries configuration identity registry chain) := by
  have each := constructFor_discreet registries discreet registry identity.startedAt
  have built (layout : ChainLayout) : Attempt.Discreet
      (Chain.ofLayoutWith (constructFor configure registries registry identity.startedAt) layout) := by
    refine Attempt.Discreet.bind (.mapM_option (each .source) _) fun source? => ?_
    refine Attempt.Discreet.bind (.mapM (each .processor) _) fun processors => ?_
    refine Attempt.Discreet.bind (.mapM_option (each .sink) _) fun sink? => ?_
    split
    · exact .pure _
    · exact .throw _
  unfold initComposite
  split
  · exact .pure _
  · next layout _ =>
    refine Discreet.bind (built layout) fun chain? => ?_
    cases chain? with
    | error fault => exact .pure _
    | ok chain => exact Discreet.bind (.log _) fun _ => .pure _

/-- Whatever a configuration comes to, at most new records are made. -/
theorem init_discreet (configuration : Configuration) (agent : Agent StockAgent) :
    Discreet (init registries configuration agent) := by
  have within : ∀ level configuration agent, Discreet (initWithin registries level configuration agent) := by
    -- A composite constructs the agents of its layout one level below its own.
    intro level
    induction level with
    | zero =>
      intro configuration agent
      cases agent with
      | leaf stock => exact (StockAgent.init_discreet configuration stock).bind fun reply => .pure _
      | composite => exact .pure _
    | succ level ih =>
      intro configuration agent
      cases agent with
      | leaf stock => exact (StockAgent.init_discreet configuration stock).bind fun reply => .pure _
      | composite identity registry chain =>
        exact initComposite_discreet registries ih configuration identity registry chain
  exact within _ configuration agent

/-- A refused configuration leaves of the agent what `refusing` says. -/
theorem refused_agent {configuration : Configuration} {agent : Agent StockAgent} {world : Environment}
    {fault : Fault AgentError}
    (refused : ((init registries configuration agent).effect world).1.result = .error fault) :
    ((init registries configuration agent).effect world).1.agent = agent.refusing configuration := by
  cases agent with
  | leaf stock =>
    rw [init_leaf_effect] at refused ⊢
    exact congrArg (fun done => leaf done.1.agent) (StockAgent.refused_effect refused)
  | composite identity registry chain =>
    rw [init_composite_effect] at refused ⊢
    cases read : ChainLayout.ofConfiguration configuration with
    | error error => rfl
    | ok layout =>
      rw [read] at refused
      simp only at refused ⊢
      generalize (Chain.ofLayout registries registry layout identity.startedAt).outcome world = built
        at refused ⊢
      obtain ⟨_ | _, after⟩ := built
      · rfl
      · cases refused

/-- A refused configuration leaves the world of a leaf as it was. -/
theorem refused_leaf {configuration : Configuration} {stock : StockAgent} {world : Environment}
    {fault : Fault AgentError}
    (refused : ((init registries configuration (.leaf stock)).effect world).1.result = .error fault) :
    (init registries configuration (.leaf stock)).effect world =
      (⟨leaf (stock.refusing configuration), .error fault⟩, world) := by
  rw [init_leaf_effect] at refused ⊢
  exact congrArg (fun done => (done.1.mapAgent leaf, done.2)) (StockAgent.refused_effect refused)

/-- Gives an agent one configuration after the other, whatever it replies to them. -/
def configureAll : List Configuration → Agent StockAgent →
    Activity Environment (List (Except (Fault AgentError) Unit) × Agent StockAgent)
  | [], agent => return ([], agent)
  | configuration :: rest, agent => do
    let reply ← init registries configuration agent
    let (results, last) ← configureAll rest reply.agent
    return (reply.result :: results, last)

theorem configureAll_effect_cons (configuration : Configuration) (rest : List Configuration)
    (agent : Agent StockAgent) (world : Environment) :
    (configureAll registries (configuration :: rest) agent).effect world =
      let (reply, middle) := (init registries configuration agent).effect world
      let ((results, last), after) := (configureAll registries rest reply.agent).effect middle
      ((reply.result :: results, last), after) := rfl

/-- The agent and the world after some configurations. -/
def reached (configurations : List Configuration) (agent : Agent StockAgent) (world : Environment) :
    Agent StockAgent × Environment :=
  let ((_, last), after) := (configureAll registries configurations agent).effect world
  (last, after)

theorem reached_cons (configuration : Configuration) (rest : List Configuration) (agent : Agent StockAgent)
    (world : Environment) :
    reached registries (configuration :: rest) agent world =
      let (reply, middle) := (init registries configuration agent).effect world
      reached registries rest reply.agent middle := rfl

/-- Configurations that are all refused leave what they leave one by one. -/
theorem reached_of_refused {configurations : List Configuration} {agent : Agent StockAgent}
    {world : Environment}
    (refused : ∀ result ∈ ((configureAll registries configurations agent).effect world).1.1,
      ∃ fault, result = .error fault) :
    (reached registries configurations agent world).1 =
      configurations.foldl (fun agent configuration => agent.refusing configuration) agent := by
  induction configurations generalizing agent world with
  | nil => rfl
  | cons configuration rest ih =>
    rw [configureAll_effect_cons] at refused
    obtain ⟨⟨fault, first⟩, others⟩ := List.forall_mem_cons.mp refused
    rw [List.foldl_cons, reached_cons, ← refused_agent registries first]
    exact ih others

/-- A configuration that a leaf refuses might as well not have been given, if it leaves nothing behind. -/
theorem reached_skip {stock : StockAgent} (untouched : stock.untouched) {front : List Configuration}
    {configuration : Configuration} (back : List Configuration) {world : Environment}
    {fault : Fault AgentError} (refused :
      let (agent, middle) := reached registries front (.leaf stock) world
      ((init registries configuration agent).effect middle).1.result = .error fault) :
    reached registries (front ++ configuration :: back) (.leaf stock) world =
      reached registries (front ++ back) (.leaf stock) world := by
  induction front generalizing stock world with
  | nil =>
    have first : ((init registries configuration (.leaf stock)).effect world).1.result = .error fault := refused
    have left := refused_leaf registries first
    rw [StockAgent.refusing_untouched untouched] at left
    rw [List.nil_append, List.nil_append, reached_cons, left]
  | cons first front ih =>
    simp only [List.cons_append, reached_cons, init_leaf_effect] at refused ⊢
    exact ih ((StockAgent.init_untouched ..).trans untouched) refused

/-- What a refused configuration leaves is known. Of a composite, and of every leaf but three kinds, it leaves
the agent as it was; a header keeps the name that the configuration gives, a failure the message, and a script
is replaced. In the world at most the number of the next record has grown, and for a leaf not even that. So a
refused configuration can be left out of the configurations given to a leaf of the other kinds, and many
refused ones leave what they leave one by one. -/
theorem refused_settings_leave_at_most_a_text :
    (∀ configuration agent world fault,
      ((init registries configuration agent).effect world).1.result = .error fault →
        ((init registries configuration agent).effect world).1.agent = agent.refusing configuration ∧
          OnlyNumbers world ((init registries configuration agent).effect world).2 ∧
          (agent.leaf?.isSome → ((init registries configuration agent).effect world).2 = world)) ∧
    (∀ agent : Agent StockAgent, agent.untouched → ∀ configuration, agent.refusing configuration = agent) ∧
    (∀ configurations agent world,
      (∀ result ∈ ((configureAll registries configurations agent).effect world).1.1,
        ∃ fault, result = .error fault) →
      (reached registries configurations agent world).1 =
        configurations.foldl (fun agent configuration => agent.refusing configuration) agent) ∧
    ∀ stock : StockAgent, stock.untouched → ∀ front configuration back world fault,
      (let (agent, middle) := reached registries front (.leaf stock) world
       ((init registries configuration agent).effect middle).1.result = .error fault) →
      reached registries (front ++ configuration :: back) (.leaf stock) world =
        reached registries (front ++ back) (.leaf stock) world := by
  refine ⟨?_, fun agent => refusing_untouched, fun _ _ _ => reached_of_refused registries, ?_⟩
  · intro configuration agent world fault refused
    refine ⟨refused_agent registries refused, init_discreet registries configuration agent world, ?_⟩
    intro single
    cases agent with
    | leaf stock => rw [refused_leaf registries refused]
    | composite => cases single
  · intro stock untouched front configuration back world fault refused
    exact reached_skip registries untouched back refused

/-- A header with the settings it was made for. -/
def language : List Configuration := [.ofList [("name", .string "lang"), ("value", .string "en")]]

/-- Settings of a header that lack the value. -/
def nameOnly : Configuration := .ofList [("name", .string "other")]

/-- A header that nobody gave any settings. -/
def newHeader : Agent StockAgent := .leaf (.setHeader (.ofIdentity ⟨"h", "set-header", ⟨0, 0⟩⟩))

/-- A refused configuration leaves its name in a header, and a sink of the log as it is. -/
theorem nameOnly_leaves_its_name :
    let world : Environment := { clock := ⟨0, 0⟩ }
    let sink : StockAgent := .logSink (.ofIdentity ⟨"s", "log-event", ⟨0, 0⟩⟩)
    let levels : Configuration := .ofList [("level", .string "loud")]
    ((init ⟨[]⟩ nameOnly newHeader).effect world).1.agent = newHeader.refusing nameOnly ∧
      (reached ⟨[]⟩ [nameOnly] newHeader world).1 = newHeader.refusing nameOnly ∧
      reached ⟨[]⟩ [levels] (.leaf sink) world = (.leaf sink, world) := by
  intro world sink levels
  obtain ⟨single, -, runs, skips⟩ := refused_settings_leave_at_most_a_text ⟨[]⟩
  refine ⟨(single nameOnly newHeader world _ rfl).1, runs [nameOnly] newHeader world ?_, ?_⟩
  · exact List.forall_mem_singleton.mpr ⟨_, rfl⟩
  · exact skips sink rfl [] levels [] world _ rfl

/-- The name of the refused configuration shows in the status of a header that had its settings. -/
theorem refused_name_shows :
    let world : Environment := { clock := ⟨0, 0⟩ }
    let given := reached ⟨[]⟩ language newHeader world
    ((init ⟨[]⟩ nameOnly given.1).effect given.2).1.result =
        .error (.raised (.ofConfiguration (.missingField "value"))) ∧
      Behaviour.status ((init ⟨[]⟩ nameOnly given.1).effect given.2).1.agent ≠
        Behaviour.status given.1 := by
  refine ⟨rfl, ?_⟩
  decide +kernel

end Agent

end Conveyor
