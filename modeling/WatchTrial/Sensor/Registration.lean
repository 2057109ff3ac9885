/-!
# Sensor registrations

One registration is a sensor type together with the listener that holds it. Registrations are
ordered by listener, then by sensor type; the order is linear.
-/
namespace WatchTrial

/-- A sensor of some type, held by a listener. -/
structure Registration where
  sensorType : String
  listener : String
deriving Repr, DecidableEq, Inhabited

namespace Registration

def describe (r : Registration) : String :=
  "Sensor: " ++ r.sensorType ++ ", Listener: " ++ r.listener ++ "."

/-- Earlier by listener, or by sensor type under the same listener. -/
def Before (a b : Registration) : Prop :=
  a.listener < b.listener ∨ a.listener = b.listener ∧ a.sensorType < b.sensorType

instance (a b : Registration) : Decidable (a.Before b) := by
  unfold Before
  infer_instance

theorem Before.irrefl (a : Registration) : ¬ a.Before a := by
  rintro (h | ⟨_, h⟩) <;> exact String.lt_irrefl _ h

theorem Before.trans {a b c : Registration} (hab : a.Before b) (hbc : b.Before c) : a.Before c := by
  rcases hab with hab | ⟨hab, tab⟩ <;> rcases hbc with hbc | ⟨hbc, tbc⟩
  · exact .inl (String.lt_trans hab hbc)
  · exact .inl (hbc ▸ hab)
  · exact .inl (hab ▸ hbc)
  · exact .inr ⟨hab.trans hbc, String.lt_trans tab tbc⟩

theorem Before.total {a b : Registration} (hab : ¬ a.Before b) (hne : a ≠ b) : b.Before a := by
  obtain ⟨ta, la⟩ := a
  obtain ⟨tb, lb⟩ := b
  simp only [Before, not_or, not_and] at hab ⊢
  by_cases hl : la = lb
  · subst hl
    have ht : ta ≠ tb := fun h => hne (by rw [h])
    exact .inr ⟨rfl, Std.lt_of_le_of_ne (Std.not_lt.mp (hab.2 rfl)) (Ne.symm ht)⟩
  · exact .inl (Std.lt_of_le_of_ne (Std.not_lt.mp hab.1) (Ne.symm hl))

end Registration
end WatchTrial
