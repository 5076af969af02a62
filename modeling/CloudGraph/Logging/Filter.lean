import CloudGraph.Logging.Directive
import CloudGraph.Settings.Basic

/-!
# Log filters

What is logged follows from the level and the directives of the settings. A variable with
directives takes the place of the level.
-/

namespace CloudGraph

/-- A directive that cannot be read, or what is wrong with those of a variable. -/
structure InvalidDirective where
  text : String
deriving DecidableEq, Repr

def InvalidDirective.message (e : InvalidDirective) : String :=
  "Invalid filter directive: " ++ e.text

namespace LogSettings

/-- Check the directives of a variable; a blank one counts as unset. -/
def checkVariable : Option String → Except InvalidDirective Unit
  | some text =>
    if Text.isBlankText text then .ok ()
    else (Directive.checkAll text).mapError fun e => ⟨e.message⟩
  | none => .ok ()

/-- Check the directives of a variable and then those of the settings. -/
def checkFilter (s : LogSettings) (fromVariable : Option String) :
    Except InvalidDirective Unit := do
  checkVariable fromVariable
  s.directives.forM fun d => (Directive.check d).mapError fun _ => ⟨d⟩

end LogSettings

end CloudGraph
