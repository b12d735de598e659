import DriverTelemetry.Text.Bounded
import Mathlib

/-!
# Writing into bounded text

Text may come in pieces and of any length; bounded text keeps the longest prefix of the whole that
fits and ends between two characters, as `Utf8.LongestPrefix` says of the characters and
`Utf8.isGreatest_floorBoundary` of the bytes. What carries this over the pieces is
`BoundedText.Sink.Holds`: with the first cut the kept prefix is the one of all that is still to come
as well, so that nothing after it matters.
-/

namespace DriverTelemetry

namespace Utf8

/-- The longest prefix of a text that takes at most `limit` bytes. -/
structure LongestPrefix (limit : Nat) (text kept : List Char) : Prop where
  isPrefix : kept <+: text
  length_le : length kept ≤ limit
  maximal : ∀ other, other <+: text → length other ≤ limit → other <+: kept

variable {limit : Nat} {cs ds : List Char}

theorem longestPrefix_take (limit : Nat) (text : List Char) :
    LongestPrefix limit text (take limit text) where
  isPrefix := take_isPrefix limit text
  length_le := length_take_le limit text
  maximal _ hprefix hfit := take_maximal hprefix hfit

theorem length_toList (text : String) : length text.toList = text.utf8ByteSize := by
  rw [← String.ofList_toList (s := text), String.utf8ByteSize_ofList, String.toList_ofList]
  induction text.toList with
  | nil => rfl
  | cons c cs ih => rw [length_cons, ih, String.utf8Len_cons, Nat.add_comm]

theorem length_le_of_prefix (h : cs <+: ds) : length cs ≤ length ds := by
  obtain ⟨rest, rfl⟩ := h
  rw [length_append]
  exact Nat.le_add_right _ _

/-- Behind text that fits, what is left of the room is for the rest. -/
theorem take_append_of_length_le (h : length cs ≤ limit) (ds : List Char) :
    take limit (cs ++ ds) = cs ++ take (limit - length cs) ds := by
  induction cs generalizing limit with
  | nil => simp
  | cons c cs ih =>
    rw [length_cons] at h
    have hc : c.utf8Size ≤ limit := by omega
    rw [List.cons_append, take, if_pos hc, ih (by omega), length_cons, Nat.sub_sub,
      List.cons_append]

/-- Behind text that does not fit, there is no room for anything. -/
theorem take_append_of_lt_length (h : limit < length cs) (ds : List Char) :
    take limit (cs ++ ds) = take limit cs := by
  induction cs generalizing limit with
  | nil => exact absurd h (Nat.not_lt_zero limit)
  | cons c cs ih =>
    rw [length_cons] at h
    by_cases hc : c.utf8Size ≤ limit
    · rw [List.cons_append, take, if_pos hc, take, if_pos hc, ih (by omega)]
    · rw [List.cons_append, take, if_neg hc, take, if_neg hc]

/-- In bytes: the cut is the last boundary between two characters within the limit. -/
theorem isGreatest_floorBoundary (limit : Nat) (text : String) :
    IsGreatest {i | (String.Pos.Raw.mk i).IsValid text ∧ i ≤ limit}
      (floorBoundary limit text.toList) := by
  refine ⟨⟨?_, length_take_le limit _⟩, ?_⟩
  · obtain ⟨rest, hrest⟩ := take_isPrefix limit text.toList
    rw [String.Pos.Raw.isValid_iff_exists_append]
    refine ⟨String.ofList (take limit text.toList), String.ofList rest, ?_, ?_⟩
    · rw [← String.ofList_append, hrest, String.ofList_toList]
    · rw [String.Pos.Raw.ext_iff, String.byteIdx_rawEndPos, ← length_toList, String.toList_ofList]
      rfl
  · rintro i ⟨hvalid, hfit⟩
    obtain ⟨front, rest, rfl, hi⟩ := String.Pos.Raw.isValid_iff_exists_append.1 hvalid
    have hlength : i = length front.toList := by
      rw [length_toList, ← String.byteIdx_rawEndPos, ← hi]
    have hprefix : front.toList <+: (front ++ rest).toList := by
      rw [String.toList_append]
      exact List.prefix_append _ _
    rw [hlength] at hfit ⊢
    exact length_le_of_prefix (take_maximal hprefix hfit)

end Utf8

namespace BoundedText

variable {n : Nat}

/-- A sink that has been given `written`, in whatever pieces. -/
structure Sink.Holds (s : Sink n) (written : List Char) : Prop where
  held_eq : s.held.text.toList = Utf8.take n written
  truncated_iff : s.truncated = true ↔ n < Utf8.length written

theorem Sink.holds_empty : Sink.Holds (⟨empty, false⟩ : Sink n) [] where
  held_eq := rfl
  truncated_iff := by simp

/-- What one piece does. -/
theorem Sink.Holds.put {s : Sink n} {written : List Char} (h : s.Holds written) (piece : String) :
    (s.put piece).Holds (written ++ piece.toList) := by
  unfold Sink.put
  by_cases htruncated : s.truncated = true
  · have hlt := h.truncated_iff.1 htruncated
    rw [if_pos htruncated]
    refine ⟨?_, iff_of_true htruncated ?_⟩
    · rw [h.held_eq, Utf8.take_append_of_lt_length hlt]
    · rw [Utf8.length_append]
      omega
  · have hle : Utf8.length written ≤ n := Nat.not_lt.1 (mt h.truncated_iff.2 htruncated)
    have hheld : s.held.text.toList = written := by
      rw [h.held_eq, Utf8.take_of_length_le hle]
    rw [if_neg htruncated]
    refine ⟨?_, ?_⟩
    · simp only [hheld, String.toList_ofList, Utf8.take_append_of_length_le hle]
    · simp only [hheld, decide_eq_true_eq, Utf8.length_append]
      omega

theorem Sink.Holds.foldl {s : Sink n} {written : List Char} (h : s.Holds written)
    (pieces : List String) :
    (pieces.foldl Sink.put s).Holds (written ++ pieces.flatMap String.toList) := by
  induction pieces generalizing s written with
  | nil => simpa using h
  | cons piece rest ih =>
    have hrest := ih (h.put piece)
    rwa [List.append_assoc, ← List.flatMap_cons] at hrest

/-- What is written depends on the whole of the pieces alone. -/
theorem write_eq (old : BoundedText n) (pieces : List String) :
    old.write pieces =
      (ofChars (String.join pieces).toList, decide (n < (String.join pieces).utf8ByteSize)) := by
  have hholds := Sink.holds_empty.foldl (n := n) pieces
  rw [List.nil_append, ← String.toList_join] at hholds
  refine Prod.ext (BoundedText.ext (String.toList_inj.1 ?_)) (Bool.eq_iff_iff.2 ?_)
  · rw [ofChars, String.toList_ofList]
    exact hholds.held_eq
  · rw [decide_eq_true_eq, ← Utf8.length_toList]
    exact hholds.truncated_iff

theorem copy_eq (old : BoundedText n) (text : String) :
    old.copy text = (ofChars text.toList, decide (n < text.utf8ByteSize)) := by
  have hwhole : String.join [text] = text := String.empty_append
  rw [copy, write_eq, hwhole]

theorem longestPrefix_ofString (text : String) :
    Utf8.LongestPrefix n text.toList (ofString text : BoundedText n).text.toList := by
  rw [ofString, copy_eq, ofChars, String.toList_ofList]
  exact Utf8.longestPrefix_take n text.toList

/-- **Bounded text keeps the longest prefix that fits.** Whatever it held before and in whatever
pieces the new text comes, it holds the longest prefix of the whole that takes at most `n` bytes and
ends between two characters, and the answer tells whether the whole takes more than that. So cutting
the text into other pieces changes nothing, nor does copying it in one. -/
theorem write_keeps_longest_prefix (old : BoundedText n) (pieces : List String) :
    Utf8.LongestPrefix n (String.join pieces).toList (old.write pieces).1.text.toList ∧
      IsGreatest {i | (String.Pos.Raw.mk i).IsValid (String.join pieces) ∧ i ≤ n}
        (old.write pieces).1.text.utf8ByteSize ∧
      ((old.write pieces).2 = true ↔ n < (String.join pieces).utf8ByteSize) ∧
      (∀ (other : BoundedText n) (cut : List String), String.join cut = String.join pieces →
        other.write cut = old.write pieces) ∧
      ∀ other : BoundedText n, other.copy (String.join pieces) = old.write pieces := by
  have hkept : (old.write pieces).1.text.toList = Utf8.take n (String.join pieces).toList := by
    rw [write_eq, ofChars, String.toList_ofList]
  refine ⟨?_, ?_, ?_, fun other cut hcut => ?_, fun other => ?_⟩
  · rw [hkept]
    exact Utf8.longestPrefix_take n _
  · rw [← Utf8.length_toList, hkept]
    exact Utf8.isGreatest_floorBoundary n _
  · rw [write_eq, decide_eq_true_eq]
  · rw [write_eq, write_eq, hcut]
  · rw [copy_eq, write_eq]

/-- After the cut nothing is taken, though the last piece would fit. -/
example : ((empty : BoundedText 5).write ["abcd", "µ", "x"]).1.text = "abcd" := by decide +kernel

end BoundedText

end DriverTelemetry
