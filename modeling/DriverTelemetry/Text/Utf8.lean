/-!
# Lengths and cuts in UTF-8

Text is bounded by its number of bytes in UTF-8 and is only ever cut between two characters.
`Utf8.take room cs` is the longest prefix of `cs` that takes at most `room` bytes:
`Utf8.length_take_le` says that it fits, `Utf8.take_maximal` that no longer prefix does.
-/

namespace DriverTelemetry

namespace Utf8

def length : List Char → Nat
  | [] => 0
  | c :: cs => c.utf8Size + length cs

/-- The longest prefix that takes at most `room` bytes. -/
def take : Nat → List Char → List Char
  | _, [] => []
  | room, c :: cs => if c.utf8Size ≤ room then c :: take (room - c.utf8Size) cs else []

/-- The largest character boundary of the text that is at most `limit`. -/
def floorBoundary (limit : Nat) (cs : List Char) : Nat := length (take limit cs)

@[simp] theorem length_nil : length [] = 0 := rfl

@[simp] theorem length_cons (c : Char) (cs : List Char) :
    length (c :: cs) = c.utf8Size + length cs := rfl

@[simp] theorem length_append (cs ds : List Char) :
    length (cs ++ ds) = length cs + length ds := by
  induction cs with
  | nil => simp
  | cons c cs ih => simp [ih, Nat.add_assoc]

/-- What is kept fits. -/
theorem length_take_le (room : Nat) (cs : List Char) : length (take room cs) ≤ room := by
  induction cs generalizing room with
  | nil => simp [take]
  | cons c cs ih =>
    unfold take
    split
    · have := ih (room - c.utf8Size)
      simp only [length_cons]
      omega
    · simp

/-- What is kept is a prefix. -/
theorem take_isPrefix (room : Nat) (cs : List Char) : take room cs <+: cs := by
  induction cs generalizing room with
  | nil => simp [take]
  | cons c cs ih =>
    unfold take
    split
    · exact List.prefix_cons_inj c |>.2 (ih _)
    · exact List.nil_prefix

/-- Every prefix that fits is a prefix of what is kept. -/
theorem take_maximal {room : Nat} {cs ds : List Char} (hds : ds <+: cs)
    (hfit : length ds ≤ room) : ds <+: take room cs := by
  induction cs generalizing room ds with
  | nil => simpa [take] using hds
  | cons c cs ih =>
    cases ds with
    | nil => exact List.nil_prefix
    | cons d ds =>
      obtain ⟨rfl, htail⟩ := List.cons_prefix_cons.1 hds
      simp only [length_cons] at hfit
      have hc : d.utf8Size ≤ room := by omega
      rw [take, if_pos hc]
      exact (List.prefix_cons_inj d).2 (ih htail (by omega))

/-- Text that fits is kept whole. -/
theorem take_of_length_le {room : Nat} {cs : List Char} (h : length cs ≤ room) :
    take room cs = cs :=
  (take_isPrefix room cs).eq_of_length_le (take_maximal (List.prefix_refl cs) h).length_le

end Utf8

end DriverTelemetry
