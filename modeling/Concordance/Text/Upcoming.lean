/-
# Concordance.Text.Upcoming -- characters that are only coming into use

The classes of this library are those of Unicode 17.  Here are letters, signs and
marks that came later, as far as they are known: they do not count as letters of a
word and are not shown in quoted texts, but names of the web may hold them.
-/
import Concordance.Text.Ranges

namespace Concordance.Text

set_option autoImplicit false

/-- Characters newer than Unicode 17. -/
def upcomingRanges : List (Nat × Nat) := [
  (1368, 1368), (1419, 1419), (1481, 1481), (2899, 2900), (6878, 6879), (6892, 6892),
  (8335, 8335), (8349, 8351), (8386, 8388), (11870, 11875), (43884, 43884), (67515, 67519),
  (69321, 69322), (69337, 69358), (69360, 69369), (72458, 72458), (73200, 73200), (74863, 74863),
  (74869, 74869), (75088, 75398), (93568, 93614), (101590, 101590), (101888, 102866),
  (110883, 110883), (110952, 110952), (118482, 118482), (119079, 119079), (119275, 119275),
  (119376, 119438), (120486, 120486), (121600, 121855), (122655, 122660), (122667, 122879),
  (128729, 128729), (129009, 129009), (129675, 129677), (129740, 129740), (129757, 129757),
  (129771, 129771), (129785, 129786), (178206, 178206), (249856, 261183)]

/-- The marks among them. -/
def upcomingMarkRanges : List (Nat × Nat) := [
  (1481, 1481), (2899, 2900), (6878, 6879), (6892, 6892), (69360, 69369), (73200, 73200),
  (93568, 93569), (119079, 119079), (119376, 119386)]

/-- Whether a character is newer than Unicode 17. -/
def isUpcoming (c : Char) : Bool := covered upcomingRanges c.toNat

/-- Whether a character is a mark that is newer than Unicode 17. -/
def isUpcomingMark (c : Char) : Bool := covered upcomingMarkRanges c.toNat

end Concordance.Text
