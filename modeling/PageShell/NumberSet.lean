/-!
# Finite sets of numbers

A finite set of natural numbers is held as the number whose bits tell the members.
-/

namespace PageShell

/-- A finite set of natural numbers: those at which `bits` has a bit. -/
structure NumberSet where
  bits : Nat := 0
  deriving DecidableEq, Repr

namespace NumberSet

/-- Whether a number is in the set. -/
def mem (s : NumberSet) (n : Nat) : Bool := s.bits.testBit n

/-- The set with one more number. -/
def insert (s : NumberSet) (n : Nat) : NumberSet := ⟨s.bits ||| 1 <<< n⟩

@[simp] theorem mem_empty (n : Nat) : mem {} n = false := by simp [mem]

end NumberSet

end PageShell
