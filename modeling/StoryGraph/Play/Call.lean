import StoryGraph.Node.Properties

/-!
# Calls to the host

What a node cannot do by itself the host does: show a dialogue, play out an
encounter, move the player, perform a delegated action.  The host answers a
call with a result, puts the answer off, or fails.

A `Call` is a method of `EventCollaborator` with its arguments.  A `Report` is
what such a method or `resume` hands over, and the answer that is put off is
`Deferred`.
-/

namespace StoryGraph

inductive Call where
  | presentDialogue (properties : DialogueProperties)
  | resolveEncounter (properties : EncounterProperties)
  | performTeleport (properties : TeleportProperties)
  | performAction (action : DelegatedAction) (target : String) (value : Value)
  deriving DecidableEq

namespace Call

/-- The host's method for a call. -/
def method : Call → String
  | presentDialogue _ => "present_dialogue"
  | resolveEncounter _ => "resolve_encounter"
  | performTeleport _ => "perform_teleport"
  | performAction .. => "perform_action"

/-- The arguments of the method. -/
def arguments : Call → List Value
  | presentDialogue properties =>
    [.str properties.speaker, .str properties.text, .str properties.portrait]
  | resolveEncounter properties =>
    [.int properties.species.val, .int properties.level.val,
      .bool properties.shiny]
  | performTeleport properties =>
    [.str properties.targetMap, properties.x.toValue,
      properties.y.toValue, properties.z.toValue]
  | performAction action target value => [.str action.word, .str target, value]

end Call

/-- How an encounter ended. -/
structure EncounterResult where
  caught : Bool
  fled : Bool
  deriving DecidableEq

namespace EncounterResult

def known : List FieldName := [.plain "caught", .plain "fled"]

def read (fields : List (String × Value)) : Checked EncounterResult :=
  mk <$> FieldName.withDefault (.plain "caught") .boolean false fields
    <*> FieldName.withDefault (.plain "fled") .boolean false fields

def check : Check EncounterResult := Check.record known read

/-- A battle follows unless the creature was caught or fled. -/
def isBattle (result : EncounterResult) : Bool :=
  !(result.caught || result.fled)

/-- The output port for how an encounter ended. -/
def port (result : EncounterResult) : Nat := if result.isBattle then 1 else 0

end EncounterResult

/-- What the host reports when a call is over. -/
inductive Report where
  | encounter (result : EncounterResult)
  | value (content : Value)
  deriving DecidableEq

namespace Report

/-- The report read as the end of an encounter. -/
def toEncounter : Report → Checked EncounterResult
  | .encounter result => .accepted result
  | .value content => EncounterResult.check content

/-- The output port to follow after a report to a node of the given kind.  Only
encounters look at what is reported. -/
def port (report : Report) (kind : Kind) : Checked Nat :=
  if kind = .encounter then report.toEncounter.map EncounterResult.port
  else .accepted 0

end Report

/-- How a call ends for the runtime. -/
inductive Answer where
  | reported (report : Report)
  /-- The report follows later. -/
  | deferred
  /-- The host failed; `kind` names the kind of failure. -/
  | failed (kind text : String)
  /-- The task in which the call was made is cancelled. -/
  | interrupted (text : String)
  deriving DecidableEq

end StoryGraph
