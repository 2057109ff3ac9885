import WatchTrial.Link.Command
/-!
# Answers on a link

A command that went well was answered with `OK`, perhaps with a value. The fault of one that failed says that
the link was lost just when the line could not be sent or no complete line came back.
-/
namespace WatchTrial

/-- The line could not be sent, or no complete line came back. -/
def Exchange.isLost : Exchange → Bool
  | .line _ => false
  | _ => true

namespace Link

def Agrees (answer : String) : Prop :=
  let line := Text.dropEndWhile (fun c => c = '\r' || c = '\n') answer.toList
  line = "OK".toList ∨ "OK:".toList <+: line

theorem valueOf_ok {command answer value : String} (h : valueOf command answer = .ok value) :
    Agrees answer := by
  unfold valueOf at h
  simp only at h
  split at h
  next hok => exact .inl hok
  next =>
    split at h
    next hstart =>
      unfold Text.afterStart at hstart
      split at hstart
      next hprefix => exact .inr (List.isPrefixOf_iff_prefix.mp hprefix)
      next => cases hstart
    next => split at h <;> cases h

theorem outcomeOf_ok {command value : String} {exchange : Exchange}
    (h : outcomeOf command exchange = .ok value) :
    ∃ answer, exchange = .line answer ∧ Agrees answer := by
  cases exchange with
  | unsent why => cases h
  | unanswered why => cases h
  | line answer => exact ⟨answer, rfl, valueOf_ok h⟩

theorem valueOf_error {command answer : String} {fault : Fault} (h : valueOf command answer = .error fault) :
    ∃ text, fault = .commandFailed command (.plain text) := by
  unfold valueOf at h
  simp only at h
  split at h
  · cases h
  · split at h
    · cases h
    · split at h <;> cases h <;> exact ⟨_, rfl⟩

/-- Only a lost link makes for a fault that says so, whatever else was answered. -/
theorem outcomeOf_error {command : String} {exchange : Exchange} {fault : Fault}
    (h : outcomeOf command exchange = .error fault) : fault.carries .connectionLost = exchange.isLost := by
  cases exchange with
  | unsent why =>
    cases h
    rfl
  | unanswered why =>
    cases h
    rfl
  | line answer =>
    obtain ⟨text, rfl⟩ := valueOf_error h
    rfl

theorem outcomeOf_lost (command : String) {exchange : Exchange} (h : exchange.isLost = true) :
    ∃ fault, outcomeOf command exchange = .error fault := by
  cases exchange with
  | unsent why => exact ⟨_, rfl⟩
  | unanswered why => exact ⟨_, rfl⟩
  | line answer => cases h

end Link

end WatchTrial
