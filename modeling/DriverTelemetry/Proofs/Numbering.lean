import DriverTelemetry.Health.Table
import DriverTelemetry.Metric.Registry
import Mathlib

/-!
# Tables with numbered entries

Metrics and drivers are numbered from 1 in the order in which their tables hold them. What changing
the entry of a number and adding a further entry do to such a list carries over to both tables.
-/

namespace DriverTelemetry

section Entries

variable {α : Type}

/-- The entry of a number; the first one has the number 1. -/
def numbered? (l : List α) (number : Nat) : Option α :=
  if number = 0 then none else l[number - 1]?

theorem numbered?_modify (l : List α) {number : Nat} (h : number ≠ 0) (f : α → α) (other : Nat) :
    numbered? (l.modify (number - 1) f) other =
      if other = number then (numbered? l other).map f else numbered? l other := by
  unfold numbered?
  by_cases hother : other = 0
  · rw [if_pos hother, if_pos hother, if_neg (by omega)]
  · have hslot : number - 1 = other - 1 ↔ other = number := by omega
    simp only [if_neg hother, List.getElem?_modify, hslot]
    by_cases heq : other = number <;> simp [heq]

theorem numbered?_append (l : List α) (x : α) (number : Nat) :
    numbered? (l ++ [x]) number = if number = l.length + 1 then some x else numbered? l number := by
  unfold numbered?
  by_cases hnew : number = l.length + 1
  · simp [hnew]
  · rw [if_neg hnew]
    by_cases hzero : number = 0
    · rw [if_pos hzero, if_pos hzero]
    · rw [if_neg hzero, if_neg hzero]
      by_cases hlt : number - 1 < l.length
      · rw [List.getElem?_append_left hlt]
      · rw [List.getElem?_append_right (by omega), List.getElem?_singleton, if_neg (by omega),
          List.getElem?_eq_none (by omega)]

theorem numbered?_length_succ (l : List α) : numbered? l (l.length + 1) = none := by
  simp [numbered?]

end Entries

namespace Registry

variable (r : Registry) (id other : MetricId)

theorem find?_modify (f : Metric → Metric) :
    (r.modify id f).find? other =
      if other = id then (r.find? other).map f else r.find? other := by
  have hsame : other = id ↔ other.number = id.number := by
    cases other
    cases id
    simp
  unfold modify
  split
  · rename_i hzero
    by_cases heq : other = id
    · simp [find?, heq, hzero]
    · rw [if_neg heq]
  · rename_i hne
    change numbered? (r.metrics.modify (id.number - 1) f) other.number = _
    simp only [numbered?_modify _ hne, hsame]
    rfl

theorem find?_append (m : Metric) :
    { r with metrics := r.metrics ++ [m] }.find? id =
      if id = ⟨r.metrics.length + 1⟩ then some m else r.find? id := by
  have hnew : id = ⟨r.metrics.length + 1⟩ ↔ id.number = r.metrics.length + 1 := by
    cases id
    simp
  simp only [hnew]
  exact numbered?_append _ m id.number

theorem find?_fresh : r.find? ⟨r.metrics.length + 1⟩ = none := numbered?_length_succ _

end Registry

namespace HealthTable

variable (t : HealthTable) (id other : DriverId)

theorem find?_modify (f : DriverHealth → DriverHealth) :
    (t.modify id f).find? other = if other = id then (t.find? other).map f else t.find? other := by
  have hsame : other = id ↔ other.number = id.number := by
    cases other
    cases id
    simp
  unfold modify
  split
  · rename_i hzero
    by_cases heq : other = id
    · simp [find?, heq, hzero]
    · rw [if_neg heq]
  · rename_i hne
    change numbered? (t.drivers.modify (id.number - 1) f) other.number = _
    simp only [numbered?_modify _ hne, hsame]
    rfl

theorem find?_modify_of_find? {t : HealthTable} {id : DriverId} {d : DriverHealth}
    (h : t.find? id = some d) (f : DriverHealth → DriverHealth) :
    (t.modify id f).find? id = some (f d) := by
  rw [find?_modify, if_pos rfl, h, Option.map_some]

theorem find?_append (d : DriverHealth) :
    { t with drivers := t.drivers ++ [d] }.find? id =
      if id = ⟨t.drivers.length + 1⟩ then some d else t.find? id := by
  have hnew : id = ⟨t.drivers.length + 1⟩ ↔ id.number = t.drivers.length + 1 := by
    cases id
    simp
  simp only [hnew]
  exact numbered?_append _ d id.number

theorem find?_fresh : t.find? ⟨t.drivers.length + 1⟩ = none := numbered?_length_succ _

end HealthTable

end DriverTelemetry
