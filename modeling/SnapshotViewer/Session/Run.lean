import SnapshotViewer.Session.Command

/-!
# Sessions

A session carries out commands one after the other in a world. A listener carries out the commands
of its script when it is called; its failures stay with it. `World.perform` closes the circle:
listeners can be called at most `World.budget` times, so that as many levels of calls within calls
suffice.
-/

namespace SnapshotViewer

namespace Command

mutual

/-- How often listeners can be called, and how many commands they can give, because of a command. -/
def weight : Command → Nat
  | .listen _ limit script => limit * (scriptWeight script + 1)
  | _ => 0

/-- The commands of a script, each with its weight. -/
def scriptWeight : List Command → Nat
  | [] => 0
  | c :: rest => c.weight + 1 + scriptWeight rest

end

end Command

/-- How often listeners can still be called, and how many commands they can give. -/
def World.budget (w : World) : Nat :=
  w.listeners.foldr (fun l total => l.remaining * (Command.scriptWeight l.script + 1) + total) 0

namespace World

/-- Carries out commands for a listener. Each command is noted with its outcome and with what the
listener sees of the views behind it. -/
def playScript (perform : Command → World → Option (Except Failure Reply × World))
    (k : ListenerRef) (w : World) (script : List Command) : Option World :=
  script.foldlM
    (fun w c => (perform c w).map fun (outcome, w) =>
      w.record (.performed k c outcome w.glimpses)) w

/-- Calls a listener: while it has calls left, it uses up one and carries out its script. -/
def callListener (perform : Command → World → Option (Except Failure Reply × World)) : Respond :=
  fun k w =>
    match w.listeners[k]? with
    | none => some w
    | some l =>
      match l.remaining with
      | 0 => some w
      | n + 1 =>
        playScript perform k
          { w with listeners := w.listeners.set k { l with remaining := n } } l.script

/-- Carries out a command where listeners can be called within calls of listeners up to a depth. -/
def performWithin : Nat → Command → World → Option (Except Failure Reply × World)
  | 0, c, w => (c.execute fun _ w => some w).runIn w
  | depth + 1, c, w => (c.execute (callListener (performWithin depth))).runIn w

/-- Carries out a command. -/
def perform (c : Command) (w : World) : Option (Except Failure Reply × World) :=
  performWithin (w.budget + c.weight) c w

/-- Carries out commands one after the other. -/
def run (commands : List Command) (w : World) : Option World :=
  commands.foldlM (fun w c => (w.perform c).map Prod.snd) w

end World

end SnapshotViewer
