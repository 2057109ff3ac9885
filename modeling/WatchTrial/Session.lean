import WatchTrial.Device.Address
import WatchTrial.Device.Operations
import WatchTrial.Gesture.Player
import WatchTrial.Link.Command
/-!
# Sessions with a watch

A session is made by connecting until it works: each attempt connects the device if its id is a network
address, dials a link, asks it for a variable to see that it answers, and asks for the display size. A
managed session replaces a lost link in the same way and repeats the call once.
-/
namespace WatchTrial

/-- How sessions are made: through which device program, over which links, and with which pause between
two attempts. -/
structure Connector where
  adb : Adb
  dial : String → Act Bench Nat
  delay : Int64

namespace Connector

variable (w : World) (c : Connector)

/-- The variable that a fresh link is asked for. -/
def livenessVariable : String := "build.device"

/-- Does the rest of an attempt, and closes the link when it fails. -/
def orClose {α : Type} (link : Nat) (a : Act Bench α) : Act Bench α := fun b =>
  match a b with
  | (.ok x, b) => (.ok x, b)
  | (.error fault, b) => (.error fault, b.close link)

/-- Connects the device if its id is a network address. -/
def reach (device : String) : Act Bench Unit :=
  if isNetworkAddress device then do
    let (_, outcome) ← Act.of (c.adb.connect w device)
    outcome
  else return ()

/-- Makes a session over a fresh link if the link answers and the display has a size. -/
def probe (device : String) (link : Nat) : Act Bench Session :=
  orClose link do
    Link.attach link
    let _ ← Link.send w link (Link.variableLine livenessVariable)
    let size ← c.adb.displaySize w device
    return ⟨device, size, some link, true⟩

def attempt (device : String) (cancelled : Bool) : Act Bench Session :=
  if cancelled then throw .canceled
  else do
    c.reach w device
    c.probe w device (← c.dial device)

/-- Attempts to make a session until it works. -/
def connect (device : String) : Task Bench Session :=
  (poll c.delay fun cancelled => fun b =>
    let (outcome, b) := (c.attempt w device cancelled) b
    (.ok outcome.toOption, b)).mapFault (.connectionLost ("connect " ++ device))

end Connector

namespace Session

variable (w : World) (c : Connector)

/-- A session over a given link, which is not replaced when it is lost. -/
def standalone (device : String) (size : DisplaySize) (link : Option Nat) : Session :=
  ⟨device, size, link, false⟩

/-- Makes a session the current one. -/
def use (s : Session) : Task Bench Unit :=
  Act.task (Act.of fun b => ((), { b with session := some s }))

/-- The current session, if it has a link. -/
def current : Task Bench (Session × Nat) := do
  match (← get).outside.session with
  | some s =>
    match s.link with
    | some link => return (s, link)
    | none => throw (.plain "session without a link")
  | none => throw (.plain "no session")

/-- Replaces the link of the current session; its size stays. -/
def reestablish (s : Session) (link : Nat) : Task Bench Nat := do
  (Link.close link).task
  let fresh ← c.connect w s.device
  use { s with link := fresh.link }
  return fresh.link.getD link

/-- Calls the watch over the current session; after a lost link, a managed session repeats the call once
over a new one. -/
def call {α : Type} (f : Nat → Act Bench α) : Task Bench α := do
  let (s, link) ← current
  match ← (f link).task.outcome with
  | .ok a => return a
  | .error fault =>
    if ! s.managed || ! fault.carries .connectionLost then throw fault
    let link ← reestablish w c s link
    (f link).task

def send (i : Input) : Task Bench Unit := call w c fun link => Link.sendInput w link i

/-- Sends a command to the watch as it is. -/
def raw (command : String) : Task Bench String := call w c fun link => Link.send w link command

def close : Act Bench Unit := do
  match (← get).session with
  | some { link := some link, .. } => Link.close link
  | _ => return ()

def watch (s : Session) : Watch Bench := ⟨s.size, send w c⟩

end Session

end WatchTrial
