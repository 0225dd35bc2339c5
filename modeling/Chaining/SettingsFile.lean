import Chaining.Settings
import Chaining.Toml.Document

set_option autoImplicit false

namespace Chaining.SettingsLayer

open Toml (Item Members)

def readStrategy : Item → Option Strategy
  | .text name => some (.ofName name)
  | _ => none

def readNatural : Item → Option Nat
  | .integer value => if 0 ≤ value then some value.toNat else none
  | _ => none

def assign (layer : SettingsLayer) (member : String × Item) : Option SettingsLayer :=
  match member.1 with
  | "strategy" => do return { layer with strategy := some (← readStrategy member.2) }
  | "max_iterations" => do return { layer with maxIterations := some (← readNatural member.2) }
  | "seed" => do return { layer with seed := some (← readNatural member.2) }
  | _ => none

/-- An array may stand for the table, with the settings in order. -/
def ofItem : Item → Option SettingsLayer
  | .table _ members => members.foldlM assign blank
  | .array (strategy :: maxIterations :: seed :: _) => do
    let strategy ← readStrategy strategy
    let maxIterations ← readNatural maxIterations
    let seed ← readNatural seed
    return ⟨some strategy, some maxIterations, some seed⟩
  | _ => none

def ofText (text : String) : Option SettingsLayer := do
  match ← Members.ofText text with
  | [] => return blank
  | [("engine", item)] => ofItem item
  | _ => none

end Chaining.SettingsLayer
