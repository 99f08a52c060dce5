import TelemetryAutomation.Alert.Message
import TelemetryAutomation.Catalog.Basic
import TelemetryAutomation.Command.Basic
import TelemetryAutomation.Condition.Expression
import TelemetryAutomation.Time.Clock

/-!
# What a run relies on

A run looks up the catalog, evaluates conditions, sends commands and alerts and executes queries. How
this is done is given by `Services`, which act on an outside world of any type `σ`. The clock and the
claimed cooldowns belong to every world.
-/

namespace TelemetryAutomation

/-- Why a query yields no result. -/
inductive QueryError
  | invalidConfig (reason : String)
  | execution (reason : String)
deriving DecidableEq, Repr

/-- The wording of an error. -/
def QueryError.message : QueryError → String
  | invalidConfig reason | execution reason => reason

/-- What executes queries. -/
structure QueryService (σ : Type) where
  /-- Checks the settings of a query before it is published. -/
  check : Key .organization → Object → Except QueryError Unit
  /-- Executes the query of a node. -/
  execute : Run → Object → Context → σ → Except QueryError Json × σ

/-- What runs rely on. Where the service for queries or alerts is missing, their nodes are skipped. -/
structure Services (σ : Type) where
  catalog : Catalog
  evaluate : (expression data : Json) → Json
  dispatch : Device → Topic → Object → Option (Key .user) → Timestamp → σ →
    Except DispatchError CommandLog × σ
  query : Option (QueryService σ)
  /-- Sends an alert; the document with which it was rendered comes along. -/
  deliver : Option (AlertMessage → Json → σ → Except AlertError Json × σ)
  /-- The cooldown of alerts that set none. -/
  defaultCooldown : Cooldown
  /-- How deep below a trigger nodes are executed. -/
  maxDepth : Nat

/-- The depth where nothing else is said. -/
def defaultMaxDepth : Nat := 256

/-- The world in which runs take place. -/
structure World (σ : Type) where
  clock : Clock
  cooldowns : CooldownStore
  outside : σ

/-- What acts on the world. -/
abbrev Action (σ α : Type) := StateM (World σ) α

namespace Action

variable {σ α : Type}

/-- The time in nanoseconds. -/
def now : Action σ Nat := fun world =>
  let (time, clock) := world.clock.read
  (time, { world with clock })

/-- Acts on the outside world. -/
def outside (act : σ → α × σ) : Action σ α := fun world =>
  let (result, outside) := act world.outside
  (result, { world with outside })

/-- Claims a cooldown key from now on. -/
def acquire (key : String) (cooldown : Cooldown) : Action σ Bool := do
  let time ← now
  fun world =>
    let (claimed, cooldowns) := world.cooldowns.acquire key (cooldown.seconds * nanosPerSecond) time
    (claimed, { world with cooldowns })

/-- Gives a cooldown key up. -/
def release (key : String) : Action σ Unit := fun world =>
  ((), { world with cooldowns := world.cooldowns.release key })

end Action

/-- The outside world of a desk and an outbox, which keep what is sent. -/
structure Recorder where
  desk : CommandDesk
  outbox : Outbox

namespace Recorder

/-- A recorder that has kept nothing yet. -/
def empty : Recorder := ⟨.new, .empty⟩

/-- Hands a command to the desk. -/
def dispatch (device : Device) (topic : Topic) (payload : Object) (user : Option (Key .user))
    (time : Timestamp) (recorder : Recorder) : Except DispatchError CommandLog × Recorder :=
  let (result, desk) := recorder.desk.dispatch device topic payload user time
  (result, { recorder with desk })

/-- Puts an alert into the outbox. -/
def deliver (message : AlertMessage) (_template : Json) (recorder : Recorder) :
    Except AlertError Json × Recorder :=
  let (result, outbox) := recorder.outbox.deliver message
  (result, { recorder with outbox })

/-- The services of a recorder, without queries. -/
def services (catalog : Catalog) : Services Recorder where
  catalog := catalog
  evaluate expression data := Expression.evaluate data expression
  dispatch := dispatch
  query := none
  deliver := some deliver
  defaultCooldown := .standard
  maxDepth := defaultMaxDepth

end Recorder

end TelemetryAutomation
