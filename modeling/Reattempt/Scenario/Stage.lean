import Reattempt.Execution.Template
import Reattempt.Failure.Make
import Reattempt.Listener
import Reattempt.Record.Correlation
import Reattempt.Scenario.Event
import Reattempt.Scenario.Plan
import Reattempt.Request

/-!
# The stage

The state of a scenario: what has been seen, what was made and how it is labelled, how often
things were asked, and the template that is in use. Time and chance are replaced: waits end at
once, and draws come from a list.
-/

namespace Reattempt

/-- A listener that is told things: none at all, a silent one, a logging one, or one that records
and reacts. -/
inductive Observer where
  | absent
  | silent
  | logging (logger : String) (level : Value)
  | recording (id : Nat) (name : Value) (hooks : List Hook) (reactions : List ReactionPlan)

structure Enrolment where
  name : String
  calls : Nat

structure ActiveTemplate where
  flavour : Flavour
  policy : Option Policy
  listener : Option (Listener Observer)
  isCustomSleep : Bool

structure Stage where
  fresh : Nat
  /-- What has been seen, the latest first. -/
  journal : List Event
  logLevel : Int
  draws : List Value
  /-- How many waits there have been, and the one that is cut short. -/
  suspensions : Nat
  interruption : Option (Int × FailurePlan)
  labels : List (String × Failure)
  operations : List (Nat × Enrolment)
  lastInvoked : Option Nat
  tallies : List ((Nat × Option Hook) × Nat)
  active : ActiveTemplate
  rolls : List (Nat × List (Listener Observer))
  root : Option Nat
  strategies : List (String × Strategy)
  correlationId : Value

namespace Stage

def empty (flavour : Flavour) (logLevel : Int) (draws : List Value)
    (interruption : Option (Int × FailurePlan)) : Stage where
  fresh := 1
  journal := []
  logLevel
  draws
  suspensions := 0
  interruption
  labels := []
  operations := []
  lastInvoked := none
  tallies := []
  active := ⟨flavour, none, none, false⟩
  rolls := []
  root := none
  strategies := []
  correlationId := .null

def nameOf (id : Nat) (stage : Stage) : String :=
  ((stage.operations.lookup id).map Enrolment.name).getD ""

def callsOf (id : Nat) (stage : Stage) : Nat :=
  ((stage.operations.lookup id).map Enrolment.calls).getD 0

def correlation : Correlation Stage :=
  ⟨Stage.correlationId, fun id stage => { stage with correlationId := id }, fun _ _ => rfl⟩

def catalogue (stage : Stage) : Catalogue where
  label id :=
    if id = 0 then none
    else (stage.labels.find? fun entry => entry.2.id == id).map Prod.fst
  name id := stage.nameOf id

def insertAt {κ α : Type} [BEq κ] (key : κ) (item : α) : List (κ × α) → List (κ × α)
  | [] => [(key, item)]
  | (k, a) :: rest => if k == key then (k, item) :: rest else (k, a) :: insertAt key item rest

end Stage

abbrev StageTask := Task Stage

namespace StageTask

def fresh : StageTask Nat := do
  let id ← Task.gets Stage.fresh
  Task.modify fun stage => { stage with fresh := id + 1 }
  pure id

def record (event : Event) : StageTask Unit :=
  Task.modify fun stage => { stage with journal := event :: stage.journal }

def answerValue (v : Value) : StageTask AnswerValue :=
  Task.gets fun stage => v.answer stage.catalogue

def answerFields : List (String × Value) → StageTask (List (String × AnswerValue))
  | [] => pure []
  | (name, v) :: rest => do
    let shown ← answerValue v
    let others ← answerFields rest
    pure ((name, shown) :: others)

/-- Give a failure a label; the label is taken from an earlier one. -/
def label (name : Option String) (f : Failure) : StageTask Failure := do
  match name with
  | some l => Task.modify fun stage => { stage with labels := Stage.insertAt l f stage.labels }
  | none => pure ()
  pure f

def labelled (name : String) : StageTask Failure := do
  match (← Task.gets Stage.labels).lookup name with
  | some f => pure f
  | none => Task.fault (.missingKey (.text name))

def enrol (name : String) : StageTask Nat := do
  let id ← fresh
  Task.modify fun stage => { stage with operations := (id, ⟨name, 0⟩) :: stage.operations }
  pure id

def changeOperation (id : Nat) (change : Enrolment → Enrolment) : StageTask Unit :=
  Task.modify fun stage =>
    match stage.operations.lookup id with
    | some enrolment =>
      { stage with operations := Stage.insertAt id (change enrolment) stage.operations }
    | none => stage

def tally (id : Nat) (hook : Option Hook) : StageTask Nat := do
  let count := (((← Task.gets Stage.tallies).lookup (id, hook)).getD 0) + 1
  Task.modify fun stage => { stage with tallies := Stage.insertAt (id, hook) count stage.tallies }
  pure count

/-! ### Replaced surroundings -/

def isSeen (logger : String) : Bool := logger == "aretry" || logger.startsWith "aretry."

def tell (notice : Notice) : StageTask Unit := do
  let least ← Task.gets Stage.logLevel
  if isSeen notice.logger && 0 < notice.level && least ≤ notice.level then
    let fields ← answerFields notice.fields
    record (.notice notice.logger notice.level notice.message fields)
  else pure ()

/-- The next draw; the last one repeats, and without draws every draw is in the middle. -/
def draw : StageTask Value := do
  match ← Task.gets Stage.draws with
  | [] => pure (.float 0.5)
  | [last] => pure last
  | next :: rest =>
    Task.modify fun stage => { stage with draws := rest }
    pure next

def uniform (low high : Value) : StageTask Value := do
  let shownLow ← answerValue low
  let shownHigh ← answerValue high
  record (.uniform shownLow shownHigh)
  let share ← draw
  Task.ofExcept do low.plus (← (← high.minus low).times share)

end StageTask

end Reattempt
