import DriverTelemetry.Core.Drivers
import Mathlib

/-!
# Messages about drivers

The message about a change of status says which change of which driver it is about. `Core.Neutral`
holds of messages that cannot be taken for one: it is enough that they begin otherwise.
-/

namespace DriverTelemetry

namespace Utf8

theorem length_le (cs : List Char) : length cs ≤ 4 * cs.length := by
  induction cs with
  | nil => simp
  | cons c cs ih =>
    have hc := c.utf8Size_le_four
    simp only [length_cons, List.length_cons]
    omega

end Utf8

namespace Payload

theorem toList_setMessage (p : Payload) (text : String) :
    (p.setMessage text).message.text.toList = Utf8.take 256 text.toList := by
  simp [setMessage, BoundedText.copy, BoundedText.write, BoundedText.Sink.put, BoundedText.clear,
    BoundedText.empty]

theorem setMessage_of_length_le (p : Payload) {text : String}
    (h : Utf8.length text.toList ≤ 256) : (p.setMessage text).message.text = text := by
  rw [← String.toList_inj, toList_setMessage, Utf8.take_of_length_le h]

end Payload

namespace Core

variable {name : Name} {a b a' b' : HealthStatus}

/-- A text that begins with another. -/
def Opens (opening text : String) : Prop := opening.toList <+: text.toList

theorem Opens.refl {text : String} : Opens text text := List.prefix_rfl

theorem Opens.append {opening text rest : String} (h : Opens opening text) :
    Opens opening (text ++ rest) := by
  unfold Opens
  rw [String.toList_append]
  exact h.trans (List.prefix_append _ _)

/-- An opening with which no message about a driver begins. -/
abbrev Apart (opening : String) : Prop :=
  Utf8.length opening.toList ≤ 256 ∧
    ¬opening.toList <+: "Driver '".toList ∧ ¬"Driver '".toList <+: opening.toList

/-- A message that cannot be taken for one about a change of status. -/
def Neutral (m : Message) : Prop := ∀ name a b, m.text ≠ transitionText name a b

theorem neutral_setMessage {opening : String} (happart : Apart opening) {p : Payload}
    {text : String} (h : Opens opening text) : Neutral (p.setMessage text).message := by
  intro name a b htext
  obtain ⟨hfit, hshorter, hlonger⟩ := happart
  have hkept := Utf8.take_maximal h hfit
  have hdriver : Opens "Driver '" (transitionText name a b) :=
    Opens.refl.append.append.append.append.append
  rw [← p.toList_setMessage, htext] at hkept
  obtain hprefix | hprefix := List.prefix_or_prefix_of_prefix hkept hdriver
  · exact hshorter hprefix
  · exact hlonger hprefix

theorem neutral_setDetails {p : Payload} {text : String} (h : Neutral p.message) :
    Neutral (p.setDetails text).message := h

end Core

end DriverTelemetry
