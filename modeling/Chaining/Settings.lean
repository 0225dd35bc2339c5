import Chaining.Forward
import Chaining.Random.Stream

set_option autoImplicit false

namespace Chaining

def defaultCap : Nat := 100

structure Settings where
  strategy : Strategy
  maxIterations : Nat
  /-- Where random choices begin; without a seed they are not repeatable. -/
  seed : Option Nat
deriving DecidableEq

structure SettingsLayer where
  strategy : Option Strategy
  maxIterations : Option Nat
  seed : Option Nat
deriving DecidableEq

namespace SettingsLayer

def blank : SettingsLayer := ⟨none, none, none⟩

/-- Fills from another layer what this one leaves open. -/
def or (layer other : SettingsLayer) : SettingsLayer where
  strategy := layer.strategy.or other.strategy
  maxIterations := layer.maxIterations.or other.maxIterations
  seed := layer.seed.or other.seed

/-- The settings of a layer, with a strategy for when it names none. -/
def resolve (layer : SettingsLayer) (strategy : Option Strategy) : Settings where
  strategy := (layer.strategy.or strategy).getD .firstMatch
  maxIterations := layer.maxIterations.getD defaultCap
  seed := layer.seed

end SettingsLayer

namespace Settings

def default : Settings := SettingsLayer.blank.resolve none

def wordLimit : Nat := Nat.pow 2 64 - 1

def record : Json.Record Settings where
  name := "EngineConfig"
  fields := [⟨"strategy", false⟩, ⟨"max_iterations", false⟩, ⟨"seed", false⟩]
  blank := default
  assign := fun field _ outline partly =>
    match field with
    | "strategy" => do return { partly with strategy := .ofName (← outline.readText) }
    | "max_iterations" => do
      return { partly with maxIterations := ← outline.readNatural "usize" wordLimit }
    | _ => do
      let readSeed := Json.Outline.readNatural "u64" wordLimit
      return { partly with seed := ← outline.readOption readSeed }

def ofText (text : String) : Json.Reading Settings :=
  Json.readDocument (record.read Json.depthLimit) text

def engine (settings : Settings) (rules : List Rule) : Forward.Engine Random.Stream where
  rules := rules
  strategy := settings.strategy
  chance := Random.Stream.generator.source
  cap := settings.maxIterations

/-- Where random choices begin; `entropy` takes the place of a seed that is left open. -/
def stream (settings : Settings) (entropy : UInt64) : Random.Stream :=
  .ofSeed ((settings.seed.map UInt64.ofNat).getD entropy)

end Settings

end Chaining
