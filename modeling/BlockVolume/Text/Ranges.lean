/-!
Sets of numbers given by the places where membership changes.
-/

namespace BlockVolume.Text

/-- Membership in the set whose runs begin and end at `bounds` — the first bound begins a run, the
second is the first number after it, and so on. -/
def insideBounds (bounds : List Nat) (n : Nat) : Bool :=
  (bounds.takeWhile (· ≤ n)).length % 2 == 1

end BlockVolume.Text
