import Reattempt.Task
import Reattempt.Value.Arithmetic

/-!
# Notices

What a run says about itself while it goes on: a line of text from a named part of the library, at
a level, with fields for machines. The wait between two attempts tells how long it is; a wait that
is not positive is none at all.
-/

namespace Reattempt

structure Notice where
  logger : String
  level : Int
  message : String
  fields : List (String × Value)

/-- The levels that have a use here. -/
def Notice.debugLevel : Int := 10

/-- The least level at which the end of a run is told. -/
def Notice.warningLevel : Int := 30

def Notice.debug (logger message : String) (fields : List (String × Value)) : Notice :=
  ⟨logger, debugLevel, message, fields⟩

def Notice.about (operation : String) (logger : String) (level : Int) (message : String) :
    Notice :=
  ⟨logger, level, message, [("operation", .text operation)]⟩

def pauseLogger : String := "aretry.utils.sleep"

/-- Wait for a number of seconds: tell it, then suspend. -/
def pause {σ : Type} (tell : Notice → Task σ Unit) (suspend : Value → Task σ Unit)
    (seconds : Value) : Task σ Unit := do
  if ← Task.ofExcept (seconds.compareBy .atMost (.int 0)) then pure ()
  else
    let text ← Task.ofExcept seconds.twoPlaces
    tell (.debug pauseLogger ("Waiting " ++ text ++ "s before retry") [])
    suspend seconds

end Reattempt
