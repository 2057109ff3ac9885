import WatchTrial.Rehearsal.Tool.Condition
import WatchTrial.Rehearsal.Tool.Echo
import WatchTrial.Rehearsal.Tool.Filter
import WatchTrial.Rehearsal.Tool.Sequence
/-!
# The tools of a host
-/
namespace WatchTrial.Rehearsal

def tools : List (String × Tool) :=
  [("true", fun _ => {}), ("false", fun _ => { status := 1 }), ("echo", .echo), ("printf", .printf),
    ("seq", .seq), ("sleep", .sleep), ("cat", .cat), ("head", .head), ("tail", .tail), ("wc", .wc), ("tr", .tr),
    ("sort", .sort), ("basename", .basename), ("dirname", .dirname), ("test", .test), ("[", .test)]

def tool? (name : String) : Option Tool := tools.lookup name

end WatchTrial.Rehearsal
