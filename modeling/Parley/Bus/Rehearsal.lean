import Parley.Bus
import Parley.Fault

/-!
# Rehearsing a bus

Handlers with a given behaviour are put on a bus, to see what a publication calls and how the
registrations change. A handler notes its name and the event before it does anything else.
-/

namespace Parley

/-- What a handler does with an event. -/
inductive Behaviour where
  | quiet
  | fails
  /-- Cancels the subscription of a name. -/
  | cancels (subscription : String)
  /-- Subscribes the handler of a name to the event's topic. -/
  | subscribes (handler : String)
  /-- Publishes an inventory event and waits for its end. -/
  | publishes
deriving DecidableEq, Repr

/-- A handler. Two of one name are told apart by their numbers. -/
structure Handler where
  name : String
  behaviour : Behaviour
  number : Nat
deriving DecidableEq, Repr

structure Subscription where
  topic : Topic
  handler : Handler
  active : Bool
deriving DecidableEq, Repr

/-- A note of a call: the handler's name and the event. -/
structure Note where
  handler : String
  event : String
deriving DecidableEq, Repr

/-- An event: its topic, and for an interaction the character's id. -/
structure Cue where
  topic : Topic
  id : String
deriving DecidableEq, Repr

namespace Cue

def inventory : Cue := ⟨.inventory, ""⟩

def text (c : Cue) : String :=
  match c.topic with
  | .interaction => c.id
  | .inventory => "inv"

end Cue

structure Rehearsal where
  bus : Bus Topic Handler
  handlers : List (String × Handler)
  subscriptions : List (String × Subscription)
  notes : List Note
deriving Repr

namespace Rehearsal

def empty : Rehearsal := ⟨Bus.empty, [], [], []⟩

/-- Makes a handler. An earlier one of its name stays where it is subscribed. -/
def define (r : Rehearsal) (name : String) (behaviour : Behaviour) : Rehearsal :=
  { r with handlers := (name, ⟨name, behaviour, r.handlers.length⟩) :: r.handlers }

def handler? (r : Rehearsal) (name : String) : Except Fault Handler :=
  match r.handlers.lookup name with
  | some h => .ok h
  | none => .error (.unknownName name)

/-- Keeps a subscription under a name, in place of an earlier one of that name. -/
def keep : List (String × Subscription) → String → Subscription → List (String × Subscription)
  | [], name, s => [(name, s)]
  | (n, t) :: rest, name, s => if n == name then (n, s) :: rest else (n, t) :: keep rest name s

def subscribe (r : Rehearsal) (topic : Topic) (name subscription : String) :
    Except Fault Unit × Rehearsal :=
  match r.handler? name with
  | .error f => (.error f, r)
  | .ok h => (.ok (), { r with
      bus := r.bus.subscribe topic h
      subscriptions := keep r.subscriptions subscription ⟨topic, h, true⟩ })

/-- Takes a registration of the handler of a name away. -/
def unsubscribe (r : Rehearsal) (topic : Topic) (name : String) : Except Fault Unit × Rehearsal :=
  match r.handler? name with
  | .error f => (.error f, r)
  | .ok h => (.ok (), { r with bus := r.bus.unsubscribe topic h })

/-- Cancels the subscription of a name; a second time changes nothing. -/
def cancel (r : Rehearsal) (name : String) : Except Fault Unit × Rehearsal :=
  match r.subscriptions.lookup name with
  | none => (.error (.unknownName name), r)
  | some s =>
    if s.active then
      (.ok (), { r with
        bus := r.bus.unsubscribe s.topic s.handler
        subscriptions := keep r.subscriptions name { s with active := false } })
    else (.ok (), r)

/-- Runs a handler on an event, with publications nested at most so deep. -/
def run : Nat → Cue → Handler → Rehearsal → Except Fault Unit × Rehearsal
  | depth, cue, h, r =>
    let r := { r with notes := r.notes ++ [⟨h.name, cue.text⟩] }
    match h.behaviour with
    | .quiet => (.ok (), r)
    | .fails => (.error (.unknownName h.name), r)
    | .cancels name => r.cancel name
    | .subscribes name => r.subscribe cue.topic name name
    | .publishes => match depth with
      | 0 => (.error (.unknownName h.name), r)
      | depth + 1 =>
        (.ok (), Bus.publish Rehearsal.bus (run depth Cue.inventory) .inventory r)

/-- How deep publications nest before the innermost handler fails. -/
def nestingLimit : Nat := 980

def publish (r : Rehearsal) (cue : Cue) : Rehearsal :=
  Bus.publish Rehearsal.bus (run nestingLimit cue) cue.topic r

/-- Publishes an interaction while the handler of a name is subscribed. The result is the number of
listeners that the topic has after the publication, before the subscription ends. -/
def during (r : Rehearsal) (topic : Topic) (name id : String) : Except Fault Nat × Rehearsal :=
  match r.handler? name with
  | .error f => (.error f, r)
  | .ok h =>
    let r := Rehearsal.publish { r with bus := r.bus.subscribe topic h } ⟨.interaction, id⟩
    (.ok (r.bus.listenerCount topic), { r with bus := r.bus.unsubscribe topic h })

end Rehearsal
end Parley
