/-!
# Listener filter

Only registrations of third parties can leak. The filter names the listeners of the platform, by the
start of their name or exactly. A list that was never given counts as empty.
-/
namespace WatchTrial

/-- Listeners whose registrations are not looked at. -/
structure ListenerFilter where
  prefixes : Option (List String)
  exact : Option (List String)
deriving Repr, DecidableEq, Inhabited

namespace ListenerFilter

def none : ListenerFilter := ⟨.none, .none⟩

/-- Listeners of the platform. The list is a heuristic that settings can replace. -/
def platform : ListenerFilter := ⟨some ["com.android", "com.google"], some ["ick"]⟩

/-- Whether a listener is passed over; a listener without a name always is. -/
def ignores (f : ListenerFilter) (listener : String) : Bool :=
  listener == "" || (f.exact.getD []).contains listener ||
    (f.prefixes.getD []).any fun start => start != "" && start.toList.isPrefixOf listener.toList

end ListenerFilter
end WatchTrial
