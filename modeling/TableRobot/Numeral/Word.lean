/-!
# Integers of a machine word

Steps on the table are counted in signed words of 64 bits: an integer beyond
the word is refused, and a sum wraps around. The main statement says that the
wrapped sum of words is a word.
-/

namespace TableRobot.Numeral

def minWord : Int := -9223372036854775808

def maxWord : Int := 9223372036854775807

def fitsWord (n : Int) : Bool := minWord ≤ n && n ≤ maxWord

/-- The integer of a word that equals `n` modulo two to the power 64. -/
def wrapWord (n : Int) : Int :=
  (n + 9223372036854775808) % 18446744073709551616 - 9223372036854775808

theorem fitsWord_iff {n : Int} : fitsWord n = true ↔ minWord ≤ n ∧ n ≤ maxWord := by
  simp [fitsWord]

theorem fitsWord_wrapWord (n : Int) : fitsWord (wrapWord n) = true := by
  rw [fitsWord_iff, wrapWord, minWord, maxWord]
  omega

theorem wrapWord_of_fits {n : Int} (h : fitsWord n = true) : wrapWord n = n := by
  rw [fitsWord_iff, minWord, maxWord] at h
  rw [wrapWord]
  omega

example : wrapWord (maxWord + 1) = minWord := by decide

end TableRobot.Numeral
