import DriverTelemetry.Text.Utf8

/-!
# Bounded text

`BoundedText n` is text of at most `n` bytes in UTF-8. It is written through a `Sink`, which takes
text piece by piece, keeps the longest prefix of the first piece that does not fit and drops
everything after it.
-/

namespace DriverTelemetry

/-- Text of at most `capacity` bytes. -/
structure BoundedText (capacity : Nat) where
  text : String
  length_le : Utf8.length text.toList ≤ capacity

namespace BoundedText

variable {n : Nat}

instance : DecidableEq (BoundedText n) := fun a b =>
  decidable_of_iff (a.text = b.text) (by cases a; cases b; simp)

@[ext] theorem ext {a b : BoundedText n} (h : a.text = b.text) : a = b := by
  cases a; cases b; simpa using h

def empty : BoundedText n := ⟨"", by simp⟩

/-- The longest prefix of `cs` that fits. -/
def ofChars (cs : List Char) : BoundedText n :=
  ⟨String.ofList (Utf8.take n cs), by simpa using Utf8.length_take_le n cs⟩

/-- Text in the course of being written. -/
structure Sink (capacity : Nat) where
  held : BoundedText capacity
  truncated : Bool

/-- Takes one more piece: all of it if it fits, else its longest prefix that does. After a cut
nothing more is taken. -/
def Sink.put (s : Sink n) (piece : String) : Sink n :=
  if s.truncated then s
  else
    let kept := s.held.text.toList
    let room := n - Utf8.length kept
    { held := ⟨String.ofList (kept ++ Utf8.take room piece.toList), by
        have hheld : Utf8.length kept ≤ n := s.held.length_le
        have htake := Utf8.length_take_le room piece.toList
        have hlen := Utf8.length_append kept (Utf8.take room piece.toList)
        simp only [String.toList_ofList]
        omega⟩
      truncated := decide (room < Utf8.length piece.toList) }

def clear (_ : BoundedText n) : BoundedText n := empty

/-- Replaces the contents by the pieces, one after the other; the flag tells whether the text was
cut. -/
def write (old : BoundedText n) (pieces : List String) : BoundedText n × Bool :=
  let sink := pieces.foldl Sink.put ⟨old.clear, false⟩
  (sink.held, sink.truncated)

def copy (old : BoundedText n) (text : String) : BoundedText n × Bool := old.write [text]

def ofString (text : String) : BoundedText n := (empty.copy text).1

def isEmpty (t : BoundedText n) : Bool := t.text.isEmpty

def length (t : BoundedText n) : Nat := Utf8.length t.text.toList

instance : Inhabited (BoundedText n) := ⟨empty⟩

end BoundedText

/-- Text with the bound that its use in a table sets. -/
abbrev Name := BoundedText 64

@[inherit_doc Name]
abbrev Description := BoundedText 128

@[inherit_doc Name]
abbrev Message := BoundedText 256

@[inherit_doc Name]
abbrev Details := BoundedText 512

end DriverTelemetry
