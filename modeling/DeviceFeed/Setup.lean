import DeviceFeed.Config
import DeviceFeed.Session

/-!
# Setting up a decoder

This file makes dispatchers and processors from a configuration.
-/

namespace DeviceFeed

/-- The dispatcher of a configuration, unless two commands share a code. -/
def Dispatcher.ofConfig (config : Config) : Except CodeClash Dispatcher :=
  match config.table.clash? with
  | some clash => .error clash
  | none =>
    .ok
      { table := config.table
        reportUnknown := config.reportUnknown
        sink := if config.debug then .log else .nowhere }

/-- The same dispatcher with a listener for debug records. -/
def Dispatcher.withListener (d : Dispatcher) : Dispatcher :=
  { d with sink := .listener }

/-- The processor of a configuration with the given publisher, unless two
commands share a code. -/
def Processor.ofConfig {P : Type} (config : Config) (publisher : P) :
    Except CodeClash (Processor P) :=
  (Dispatcher.ofConfig config).map fun dispatcher =>
    { dispatcher := dispatcher, maxBody := config.maxBody.toNat, publisher := publisher }

/-- The same processor with a listener for debug records. -/
def Processor.withListener {P : Type} (p : Processor P) : Processor P :=
  { p with dispatcher := p.dispatcher.withListener }

end DeviceFeed
