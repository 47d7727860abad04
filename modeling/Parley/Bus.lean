/-!
# The event bus

Handlers are registered for topics. An event is given to the handlers registered for its topic when
its publication begins, one after another in the order of their registration; what a handler changes
on the bus concerns later publications, and a handler that fails stops nobody.
-/

namespace Parley

/-- Handlers with their topics, in order of registration. -/
structure Bus (τ η : Type) where
  registrations : List (τ × η)
deriving Repr

namespace Bus

variable {τ η σ ε : Type}

def empty : Bus τ η := ⟨[]⟩

variable [BEq τ]

def handlers (b : Bus τ η) (topic : τ) : List η :=
  (b.registrations.filter (·.1 == topic)).map (·.2)

def listenerCount (b : Bus τ η) (topic : τ) : Nat := (b.handlers topic).length

/-- Registers a handler after all others. -/
def subscribe (b : Bus τ η) (topic : τ) (h : η) : Bus τ η := ⟨b.registrations ++ [(topic, h)]⟩

/-- Takes the first registration of a handler for a topic away, if there is one. -/
def unsubscribe [BEq η] (b : Bus τ η) (topic : τ) (h : η) : Bus τ η :=
  ⟨b.registrations.erase (topic, h)⟩

/-- Runs handlers in order on a state, whatever their outcomes. -/
def dispatch (run : η → σ → ε × σ) (hs : List η) (s : σ) : σ :=
  hs.foldl (fun s h => (run h s).2) s

def publish (bus : σ → Bus τ η) (run : η → σ → ε × σ) (topic : τ) (s : σ) : σ :=
  dispatch run ((bus s).handlers topic) s

theorem handlers_subscribe (b : Bus τ η) (topic topic' : τ) (h : η) :
    (b.subscribe topic h).handlers topic' =
      b.handlers topic' ++ if topic == topic' then [h] else [] := by
  by_cases ht : (topic == topic') = true <;>
    simp [handlers, subscribe, List.filter_append, ht]

end Bus

/-- What events are about. -/
inductive Topic where
  | interaction
  | inventory
deriving DecidableEq, Repr

end Parley
