/-
# Concordance.Text.Direction -- in which direction a character is written

Letters are written from left to right or from right to left.  Numbers run from left
to right even among letters that do not; Arabic ones only stand among those.  Marks
take the direction of their letter, and all else that of what stands around it.

The classes are those of Unicode 17 and of what came after it, as far as names of the
web can hold the characters.
-/
import Concordance.Text.Mark
import Concordance.Text.Ranges
import Concordance.Text.Upcoming

namespace Concordance.Text

set_option autoImplicit false

/-- How a character takes part in the direction of a text. -/
inductive Direction
  | leftToRight
  | rightToLeft
  | number
  | arabicNumber
  | nonspacing
  | neutral
  deriving DecidableEq, Repr

/-- Letters that are written from right to left. -/
def rightToLeftRanges : List (Nat × Nat) := [
  (1470, 1524), (1544, 1544), (1547, 1547), (1549, 1549), (1563, 1610), (1645, 1749),
  (1765, 1766), (1774, 1775), (1786, 2037), (2042, 2249), (64434, 64450), (65139, 65139),
  (67584, 67867), (67872, 68405), (68416, 68899), (68938, 68943), (68975, 69007), (69248, 69322),
  (69337, 69359), (69376, 69622), (124928, 126269)]

/-- Digits outside ASCII that run like the European ones. -/
def numberRanges : List (Nat × Nat) := [
  (1776, 1785), (66273, 66299)]

/-- Digits that stand among letters written from right to left. -/
def arabicNumberRanges : List (Nat × Nat) := [
  (1632, 1641), (1643, 1644), (68912, 68937), (69216, 69246)]

/-- Characters outside ASCII without a direction of their own. -/
def neutralRanges : List (Nat × Nat) := [
  (161, 215), (247, 247), (697, 698), (706, 719), (722, 749), (751, 767), (885, 885),
  (1014, 1014), (1418, 1423), (1542, 1543), (1545, 1546), (1548, 1548), (1550, 1551),
  (1642, 1642), (1758, 1758), (1769, 1769), (2038, 2041), (2546, 2547), (2555, 2555),
  (2801, 2801), (3059, 3066), (3192, 3198), (3647, 3647), (3898, 3901), (5008, 5017),
  (5120, 5120), (5787, 5788), (6107, 6107), (6128, 6154), (6464, 6469), (6622, 6655),
  (8204, 8525), (8586, 9013), (9083, 9108), (9110, 9899), (9901, 10239), (10496, 11263),
  (11493, 11498), (11513, 11519), (11776, 12292), (12296, 12320), (12336, 12336), (12343, 12343),
  (12349, 12351), (12448, 12448), (12539, 12539), (12736, 12773), (19904, 19967), (42128, 42182),
  (42509, 42511), (42611, 42623), (42752, 42785), (42888, 42888), (43048, 43051), (43064, 43065),
  (43124, 43127), (43882, 43883), (64451, 65094), (65793, 65793), (65856, 65932), (65936, 65952),
  (67871, 67871), (68409, 68415), (68974, 68974), (69328, 69336), (69714, 69733), (71264, 71276),
  (73685, 73713), (94178, 94178), (117760, 118512), (119273, 119365), (119376, 119438), (119552, 119638), (121600, 121855),
  (123647, 123647), (126704, 127279), (127341, 127343), (127405, 127405), (127584, 130042)]

/-- Marks that are written like letters, from left to right. -/
def spacingMarkRanges : List (Nat × Nat) := [
  (2307, 2307), (2363, 2363), (2366, 2368), (2377, 2380), (2382, 2383), (2434, 2435),
  (2494, 2496), (2503, 2508), (2519, 2519), (2563, 2563), (2622, 2624), (2691, 2691),
  (2750, 2752), (2761, 2764), (2818, 2819), (2878, 2878), (2880, 2880), (2887, 2892),
  (2903, 2903), (3006, 3007), (3009, 3020), (3031, 3031), (3073, 3075), (3137, 3140),
  (3202, 3203), (3262, 3275), (3285, 3286), (3315, 3315), (3330, 3331), (3390, 3392),
  (3398, 3404), (3415, 3415), (3458, 3459), (3535, 3537), (3544, 3571), (3902, 3903),
  (3967, 3967), (4139, 4140), (4145, 4145), (4152, 4152), (4155, 4156), (4182, 4183),
  (4194, 4205), (4227, 4228), (4231, 4236), (4239, 4252), (5909, 5909), (5940, 5940),
  (6070, 6070), (6078, 6085), (6087, 6088), (6435, 6438), (6441, 6449), (6451, 6456),
  (6681, 6682), (6741, 6741), (6743, 6743), (6753, 6753), (6755, 6756), (6765, 6770),
  (6916, 6916), (6965, 6965), (6970, 6977), (6979, 6980), (7042, 7073),
  (7078, 7079), (7082, 7082), (7143, 7143), (7146, 7148), (7150, 7150), (7154, 7211),
  (7220, 7221), (7393, 7393), (7415, 7415), (12334, 12335), (43043, 43044), (43047, 43047),
  (43136, 43203), (43346, 43347), (43395, 43395), (43444, 43445), (43450, 43451), (43454, 43456),
  (43567, 43568), (43571, 43572), (43597, 43643), (43645, 43645), (43755, 43755), (43758, 43765),
  (44003, 44004), (44006, 44007), (44009, 44012), (69632, 69632), (69634, 69634), (69762, 69810),
  (69815, 69816), (69932, 69932), (69957, 69958), (70018, 70069), (70079, 70080), (70094, 70094),
  (70188, 70190), (70194, 70195), (70197, 70197), (70368, 70370), (70402, 70403), (70462, 70463),
  (70465, 70499), (70584, 70586), (70594, 70605), (70607, 70607), (70709, 70711), (70720, 70721),
  (70725, 70725), (70832, 70834), (70841, 70841), (70843, 70846), (70849, 70849), (71087, 71089),
  (71096, 71099), (71102, 71102), (71216, 71218), (71227, 71228), (71230, 71230), (71340, 71340),
  (71342, 71343), (71350, 71350), (71454, 71454), (71456, 71457), (71462, 71462), (71724, 71726),
  (71736, 71736), (71984, 71992), (71997, 71997), (72000, 72002), (72145, 72147), (72156, 72159),
  (72164, 72164), (72199, 72200), (72249, 72249), (72279, 72280), (72343, 72343), (72545, 72545),
  (72549, 72549), (72551, 72751), (72766, 72767), (72873, 72873), (72881, 72881), (72884, 72884),
  (73098, 73102), (73107, 73108), (73110, 73110), (73461, 73462), (73475, 73525), (73534, 73535),
  (73537, 73537), (90410, 90412), (94033, 94087), (94192, 94193), (119141, 119142),
  (119149, 119154)]

/-- Whether a mark is drawn onto its letter without taking up space. -/
def isNonspacing (c : Char) : Bool :=
  (isMark c && !covered spacingMarkRanges c.toNat) || isUpcomingMark c

/-- The direction of a character. -/
def direction (c : Char) : Direction :=
  if c.isDigit || covered numberRanges c.toNat then .number
  else if c.toNat < 128 then (if c.isAlpha then .leftToRight else .neutral)
  else if isNonspacing c then .nonspacing
  else if covered arabicNumberRanges c.toNat then .arabicNumber
  else if covered rightToLeftRanges c.toNat then .rightToLeft
  else if covered neutralRanges c.toNat then .neutral
  else .leftToRight

end Concordance.Text
