import BookingNotices.Text.CharSet
import BookingNotices.Text.Parts
import BookingNotices.Text.Shifts

/-!
# Characters of domains in all scripts

* `Domain.refused`      : the characters that no domain has;
* `Domain.dropped`      : the characters that do not count in a domain;
* `Domain.shifts`, `Domain.replacements` : the characters that stand for others in a domain;
* `Domain.mapped?`      : a domain as it is meant, if it has no refused character.

Letters stand for their lower-case letters, and forms that only look different for plain ones. The
ideographic full stops are points.
-/

namespace BookingNotices.Mail.Domain

open Text

/-- The characters that no domain has. -/
def refused : CharSet :=
  ⟨[128, 32, 728, 2, 6, 4, 7, 1, 1, 1, 20, 1, 397, 1, 38, 2, 50, 2, 3, 1, 55, 8, 27, 4, 6, 17, 22,
  1, 192, 1, 48, 2, 59, 2, 101, 14, 59, 2, 49, 2, 15, 1, 28, 2, 1, 1, 11, 5, 32, 7, 75, 1, 161, 1,
  8, 2, 2, 2, 22, 1, 7, 1, 1, 3, 4, 2, 9, 2, 2, 2, 4, 8, 1, 4, 2, 1, 5, 2, 25, 2, 3, 1, 6, 4, 2, 2,
  22, 1, 7, 1, 2, 1, 2, 1, 2, 2, 1, 1, 5, 4, 2, 2, 3, 3, 1, 7, 4, 1, 1, 7, 17, 10, 3, 1, 9, 1, 3, 1,
  22, 1, 7, 1, 2, 1, 5, 2, 10, 1, 3, 1, 3, 2, 1, 15, 4, 2, 12, 7, 7, 1, 3, 1, 8, 2, 2, 2, 22, 1, 7,
  1, 2, 1, 5, 2, 9, 2, 2, 2, 3, 7, 3, 4, 2, 1, 5, 2, 18, 10, 2, 1, 6, 3, 3, 1, 4, 3, 2, 1, 1, 1, 2,
  3, 2, 3, 3, 3, 12, 4, 5, 3, 3, 1, 4, 2, 1, 6, 1, 14, 21, 5, 13, 1, 3, 1, 23, 1, 16, 2, 9, 1, 3, 1,
  4, 7, 2, 1, 3, 1, 2, 2, 4, 2, 10, 7, 22, 1, 3, 1, 23, 1, 10, 1, 5, 2, 9, 1, 3, 1, 4, 7, 2, 5, 3,
  1, 4, 2, 10, 1, 3, 12, 13, 1, 3, 1, 51, 1, 3, 1, 6, 4, 16, 2, 26, 1, 3, 1, 18, 3, 24, 1, 9, 1, 1,
  2, 7, 3, 1, 4, 6, 1, 1, 1, 8, 6, 10, 2, 3, 12, 58, 4, 29, 37, 2, 1, 1, 1, 5, 1, 24, 1, 1, 1, 23,
  2, 5, 1, 1, 1, 7, 1, 10, 2, 4, 32, 72, 1, 36, 4, 39, 1, 36, 1, 15, 1, 13, 37, 198, 1, 1, 5, 1, 2,
  377, 1, 4, 2, 7, 1, 1, 1, 4, 2, 41, 1, 4, 2, 33, 1, 4, 2, 7, 1, 1, 1, 4, 2, 15, 1, 57, 1, 4, 2,
  67, 2, 32, 3, 26, 6, 86, 2, 6, 2, 640, 1, 28, 3, 89, 7, 22, 9, 24, 9, 20, 12, 13, 1, 3, 1, 2, 12,
  94, 2, 10, 6, 10, 6, 26, 6, 89, 7, 43, 5, 70, 10, 31, 1, 12, 4, 12, 4, 1, 3, 42, 2, 5, 11, 44, 4,
  26, 6, 11, 3, 62, 2, 65, 1, 29, 2, 11, 6, 10, 6, 14, 2, 46, 2, 12, 20, 77, 1, 166, 8, 60, 3, 15,
  3, 62, 5, 43, 2, 11, 8, 43, 5, 534, 2, 6, 2, 38, 2, 6, 2, 8, 1, 1, 1, 1, 1, 1, 1, 31, 2, 53, 1,
  15, 1, 14, 2, 6, 1, 19, 2, 3, 1, 9, 1, 14, 2, 20, 3, 1, 7, 54, 5, 8, 2, 27, 1, 13, 3, 34, 14, 33,
  15, 140, 4, 666, 22, 11, 21, 40, 20, 1752, 2, 382, 5, 45, 1, 1, 5, 1, 2, 56, 7, 2, 14, 24, 9, 7,
  1, 7, 1, 7, 1, 7, 1, 7, 1, 7, 1, 7, 1, 7, 1, 126, 34, 26, 1, 89, 12, 214, 42, 64, 1, 86, 2, 103,
  5, 43, 1, 94, 1, 86, 10, 47, 1, 418, 1, 4, 1, 16, 1, 28852, 3, 55, 9, 348, 20, 184, 8, 221, 20,
  60, 3, 10, 6, 56, 8, 70, 8, 12, 6, 116, 11, 30, 3, 78, 1, 11, 4, 33, 1, 55, 9, 14, 2, 10, 2, 103,
  24, 28, 10, 6, 2, 6, 2, 6, 9, 7, 1, 7, 1, 60, 4, 126, 2, 10, 6, 11172, 12, 23, 4, 49, 8452, 366,
  2, 106, 38, 7, 12, 5, 5, 26, 1, 5, 1, 1, 1, 2, 1, 2, 1, 650, 32, 34, 1, 6, 7, 16, 1, 33, 2, 19, 1,
  4, 4, 5, 1, 135, 2, 1, 1, 190, 3, 6, 2, 6, 2, 6, 2, 3, 3, 7, 1, 7, 17, 12, 1, 26, 1, 19, 1, 2, 1,
  15, 2, 14, 34, 123, 5, 3, 4, 45, 3, 88, 1, 13, 3, 1, 47, 46, 130, 29, 3, 49, 15, 28, 4, 36, 9, 30,
  5, 43, 5, 30, 1, 37, 4, 14, 42, 158, 2, 10, 6, 36, 4, 36, 4, 40, 8, 52, 11, 12, 1, 15, 1, 7, 1, 2,
  1, 11, 1, 15, 1, 7, 1, 2, 3, 52, 12, 311, 9, 22, 10, 8, 24, 6, 1, 42, 1, 9, 69, 6, 2, 1, 1, 44, 1,
  2, 3, 1, 2, 23, 1, 72, 8, 9, 48, 19, 1, 2, 5, 33, 3, 27, 5, 27, 38, 56, 4, 20, 2, 50, 1, 2, 5, 8,
  1, 3, 1, 29, 2, 3, 4, 10, 7, 9, 7, 64, 32, 39, 4, 12, 9, 54, 3, 29, 2, 27, 5, 26, 7, 4, 12, 7, 80,
  73, 55, 51, 13, 51, 7, 46, 8, 10, 6, 38, 3, 29, 8, 2, 208, 31, 1, 42, 1, 3, 2, 2, 16, 6, 8, 9, 33,
  46, 8, 42, 22, 26, 38, 28, 20, 23, 9, 78, 4, 36, 9, 62, 1, 5, 13, 25, 7, 10, 6, 53, 1, 18, 8, 39,
  9, 96, 1, 20, 11, 18, 1, 47, 62, 7, 1, 1, 1, 4, 1, 15, 1, 11, 6, 59, 5, 10, 6, 4, 1, 8, 2, 2, 2,
  22, 1, 7, 1, 2, 1, 5, 1, 10, 2, 2, 2, 3, 2, 1, 6, 1, 5, 7, 2, 7, 3, 5, 11, 10, 1, 1, 2, 1, 1, 38,
  1, 10, 1, 1, 2, 1, 1, 4, 1, 10, 1, 2, 8, 2, 29, 92, 1, 5, 30, 72, 8, 10, 166, 54, 2, 38, 34, 69,
  11, 10, 6, 13, 19, 58, 6, 10, 6, 20, 28, 27, 2, 15, 4, 23, 185, 60, 100, 83, 12, 8, 2, 1, 2, 8, 1,
  2, 1, 30, 1, 2, 2, 12, 9, 10, 70, 8, 2, 46, 2, 11, 27, 72, 8, 83, 13, 73, 7, 10, 86, 8, 88, 34,
  14, 10, 6, 9, 1, 45, 1, 14, 10, 29, 3, 32, 2, 22, 1, 14, 73, 7, 1, 2, 1, 44, 3, 1, 1, 2, 1, 9, 8,
  10, 6, 6, 1, 2, 1, 37, 1, 2, 1, 6, 7, 10, 6, 44, 4, 10, 246, 25, 7, 17, 1, 41, 3, 29, 85, 1, 15,
  50, 13, 923, 102, 111, 1, 5, 11, 196, 2636, 99, 13, 1072, 16, 22, 10, 3995, 5, 583, 6841, 58,
  1734, 569, 7, 31, 1, 10, 4, 81, 1, 10, 6, 30, 2, 6, 10, 70, 10, 10, 1, 7, 1, 21, 5, 19, 432, 58,
  198, 91, 5, 25, 2, 25, 44, 75, 4, 57, 7, 17, 64, 5, 11, 7, 9, 7382, 41, 32, 97, 115, 8701, 4, 1,
  7, 1, 2, 1, 291, 15, 1, 29, 3, 2, 1, 14, 4, 8, 396, 2308, 107, 5, 13, 3, 9, 7, 10, 2, 8, 3932,
  253, 3, 436, 6, 23, 15, 17, 15, 46, 2, 23, 9, 116, 60, 246, 10, 39, 2, 194, 21, 70, 122, 20, 12,
  20, 12, 87, 9, 25, 135, 85, 1, 71, 1, 2, 2, 1, 2, 2, 2, 4, 1, 12, 1, 1, 1, 7, 1, 65, 1, 4, 2, 8,
  1, 7, 1, 28, 1, 4, 1, 5, 1, 1, 3, 7, 1, 340, 2, 292, 2, 702, 15, 5, 1, 15, 1104, 31, 6, 6, 213, 7,
  1, 17, 2, 7, 1, 2, 1, 5, 5, 62, 33, 1, 112, 45, 3, 14, 2, 10, 4, 2, 320, 31, 17, 58, 5, 1, 464,
  42, 214, 43, 4, 1, 192, 31, 1, 22, 8, 2, 224, 7, 1, 4, 1, 2, 1, 15, 1, 197, 2, 16, 41, 76, 4, 10,
  4, 2, 785, 68, 76, 61, 194, 4, 1, 27, 1, 2, 1, 1, 2, 1, 1, 10, 1, 4, 1, 1, 1, 1, 6, 1, 4, 1, 1, 1,
  1, 1, 1, 3, 1, 2, 1, 1, 2, 1, 1, 1, 1, 1, 1, 1, 1, 1, 1, 2, 1, 1, 2, 4, 1, 7, 1, 4, 1, 4, 1, 1, 1,
  10, 1, 17, 5, 3, 1, 5, 1, 17, 52, 2, 270, 44, 4, 100, 12, 15, 2, 15, 1, 15, 1, 37, 11, 173, 56,
  29, 13, 44, 4, 9, 7, 2, 14, 6, 154, 985, 3, 17, 3, 13, 3, 218, 6, 12, 4, 1, 15, 12, 4, 56, 8, 10,
  6, 40, 8, 30, 2, 12, 4, 2, 14, 9, 39, 344, 8, 14, 2, 13, 3, 11, 3, 57, 1, 1, 4, 16, 2, 12, 4, 10,
  7, 147, 1, 103, 1029, 42720, 32, 4382, 2, 5774, 2, 7473, 15, 622, 2466, 542, 1506, 4939, 5, 8490,
  707718, 240, 196112]⟩

/-- The characters that do not count in a domain. -/
def dropped : CharSet :=
  ⟨[173, 1, 673, 1, 3599, 2, 1619, 2, 85, 5, 2043, 1, 84, 5, 5, 6, 4340, 1, 52379, 16, 239, 1, 160,
  1, 48383, 4, 5327, 8, 798597, 240]⟩

/-- The characters that stand in runs for others. -/
def shifts : List Shift :=
  [(0x41, 0x5A, 1, 32), (0xC0, 0xD6, 1, 32), (0xD8, 0xDE, 1, 32), (0x100, 0x12E, 2, 1),
  (0x139, 0x13D, 2, 1), (0x141, 0x147, 2, 1), (0x14A, 0x176, 2, 1), (0x179, 0x17D, 2, 1),
  (0x1A0, 0x1A4, 2, 1), (0x1CD, 0x1DB, 2, 1), (0x1DE, 0x1EE, 2, 1), (0x1F8, 0x21E, 2, 1),
  (0x222, 0x232, 2, 1), (0x246, 0x24E, 2, 1), (0x388, 0x38A, 1, 37), (0x391, 0x3A1, 1, 32),
  (0x3A3, 0x3AB, 1, 32), (0x3D8, 0x3EE, 2, 1), (0x3FD, 0x3FF, 1, -130), (0x400, 0x40F, 1, 80),
  (0x410, 0x42F, 1, 32), (0x460, 0x480, 2, 1), (0x48A, 0x4BE, 2, 1), (0x4C1, 0x4CD, 2, 1),
  (0x4D0, 0x52E, 2, 1), (0x531, 0x556, 1, 48), (0x10A0, 0x10C5, 1, 7264), (0x13F8, 0x13FD, 1, -8),
  (0x1C90, 0x1CBA, 1, -3008), (0x1CBD, 0x1CBF, 1, -3008), (0x1D31, 0x1D39, 2, -7372),
  (0x1D34, 0x1D3A, 2, -7372), (0x1D5D, 0x1D5F, 1, -6571), (0x1DA4, 0x1DA6, 1, -6972),
  (0x1DAE, 0x1DB1, 1, -6972), (0x1DBC, 0x1DBE, 1, -6956), (0x1E00, 0x1E94, 2, 1),
  (0x1EA0, 0x1EFE, 2, 1), (0x1F08, 0x1F0F, 1, -8), (0x1F18, 0x1F1D, 1, -8), (0x1F28, 0x1F2F, 1, -8),
  (0x1F38, 0x1F3F, 1, -8), (0x1F48, 0x1F4D, 1, -8), (0x1F59, 0x1F5F, 2, -8),
  (0x1F68, 0x1F6F, 1, -8), (0x2074, 0x2079, 1, -8256), (0x2080, 0x2089, 1, -8272),
  (0x2096, 0x2099, 1, -8235), (0x2119, 0x211B, 1, -8361), (0x2135, 0x2138, 1, -7013),
  (0x2460, 0x2468, 1, -9263), (0x24B6, 0x24CF, 1, -9301), (0x24D0, 0x24E9, 1, -9327),
  (0x2C00, 0x2C2F, 1, 48), (0x2C67, 0x2C6B, 2, 1), (0x2C80, 0x2CE2, 2, 1),
  (0x3137, 0x3139, 1, -8244), (0x313A, 0x313F, 1, -8074), (0x3141, 0x3143, 1, -8251),
  (0x3145, 0x314E, 1, -8252), (0x314F, 0x3163, 1, -8174), (0x3178, 0x317C, 1, -8269),
  (0x3184, 0x3186, 1, -8237), (0x3263, 0x3265, 1, -8542), (0x3269, 0x326D, 1, -8539),
  (0x32E4, 0x32E9, 1, -538), (0x32EE, 0x32F2, 1, -528), (0x32F5, 0x32FA, 1, -525),
  (0x32FB, 0x32FE, 1, -524), (0xA640, 0xA66C, 2, 1), (0xA680, 0xA69A, 2, 1), (0xA722, 0xA72E, 2, 1),
  (0xA732, 0xA76E, 2, 1), (0xA77E, 0xA786, 2, 1), (0xA796, 0xA7A8, 2, 1), (0xA7B4, 0xA7C2, 2, 1),
  (0xA7CC, 0xA7DA, 2, 1), (0xAB70, 0xABBF, 1, -38864), (0xFB24, 0xFB26, 1, -62793),
  (0xFE41, 0xFE44, 1, -52789), (0xFF01, 0xFF20, 1, -65248), (0xFF21, 0xFF3A, 1, -65216),
  (0xFF3B, 0xFF5E, 1, -65248), (0xFF85, 0xFF8A, 1, -52923), (0xFF8F, 0xFF93, 1, -52913),
  (0xFF96, 0xFF9B, 1, -52910), (0xFFA7, 0xFFA9, 1, -61092), (0xFFAA, 0xFFAF, 1, -60922),
  (0xFFB1, 0xFFB3, 1, -61099), (0xFFB5, 0xFFBE, 1, -61100), (0xFFC2, 0xFFC7, 1, -61025),
  (0xFFCA, 0xFFCF, 1, -61027), (0xFFD2, 0xFFD7, 1, -61029), (0xFFDA, 0xFFDC, 1, -61031),
  (0xFFE9, 0xFFEC, 1, -56921), (0x10400, 0x10427, 1, 40), (0x104B0, 0x104D3, 1, 40),
  (0x10570, 0x10594, 2, 39), (0x10571, 0x10579, 2, 39), (0x1057D, 0x10589, 2, 39),
  (0x1058D, 0x10591, 2, 39), (0x107B6, 0x107B8, 1, -67062), (0x10C80, 0x10CB2, 1, 64),
  (0x10D50, 0x10D65, 1, 32), (0x118A0, 0x118BF, 1, 32), (0x16E40, 0x16E5F, 1, 32),
  (0x16EA0, 0x16EB8, 1, 27), (0x1CCD6, 0x1CCEF, 1, -117877), (0x1CCF0, 0x1CCF9, 1, -117952),
  (0x1D400, 0x1D419, 1, -119711), (0x1D41A, 0x1D433, 1, -119737), (0x1D434, 0x1D44D, 1, -119763),
  (0x1D44E, 0x1D466, 2, -119789), (0x1D44F, 0x1D453, 2, -119789), (0x1D457, 0x1D467, 2, -119789),
  (0x1D468, 0x1D481, 1, -119815), (0x1D482, 0x1D49B, 1, -119841), (0x1D4A9, 0x1D4AC, 1, -119867),
  (0x1D4AE, 0x1D4B5, 1, -119867), (0x1D4B6, 0x1D4B9, 1, -119893), (0x1D4BB, 0x1D4CF, 2, -119893),
  (0x1D4BE, 0x1D4C2, 2, -119893), (0x1D4C6, 0x1D4CE, 2, -119893), (0x1D4D0, 0x1D4E9, 1, -119919),
  (0x1D4EA, 0x1D503, 1, -119945), (0x1D505, 0x1D509, 2, -119971), (0x1D50D, 0x1D514, 1, -119971),
  (0x1D516, 0x1D51C, 1, -119971), (0x1D51E, 0x1D537, 1, -119997), (0x1D539, 0x1D53D, 2, -120023),
  (0x1D53C, 0x1D546, 2, -120023), (0x1D54A, 0x1D550, 1, -120023), (0x1D552, 0x1D56B, 1, -120049),
  (0x1D56C, 0x1D585, 1, -120075), (0x1D586, 0x1D59F, 1, -120101), (0x1D5A0, 0x1D5B9, 1, -120127),
  (0x1D5BA, 0x1D5D3, 1, -120153), (0x1D5D4, 0x1D5ED, 1, -120179), (0x1D5EE, 0x1D607, 1, -120205),
  (0x1D608, 0x1D621, 1, -120231), (0x1D622, 0x1D63B, 1, -120257), (0x1D63C, 0x1D655, 1, -120283),
  (0x1D656, 0x1D66F, 1, -120309), (0x1D670, 0x1D689, 1, -120335), (0x1D68A, 0x1D6A3, 1, -120361),
  (0x1D6A8, 0x1D6B8, 1, -119543), (0x1D6BA, 0x1D6C0, 1, -119543), (0x1D6C2, 0x1D6D2, 1, -119569),
  (0x1D6D4, 0x1D6DA, 1, -119569), (0x1D6E2, 0x1D6F2, 1, -119601), (0x1D6F4, 0x1D6FA, 1, -119601),
  (0x1D6FC, 0x1D70C, 1, -119627), (0x1D70E, 0x1D714, 1, -119627), (0x1D71C, 0x1D72C, 1, -119659),
  (0x1D72E, 0x1D734, 1, -119659), (0x1D736, 0x1D746, 1, -119685), (0x1D748, 0x1D74E, 1, -119685),
  (0x1D756, 0x1D766, 1, -119717), (0x1D768, 0x1D76E, 1, -119717), (0x1D770, 0x1D780, 1, -119743),
  (0x1D782, 0x1D788, 1, -119743), (0x1D790, 0x1D7A0, 1, -119775), (0x1D7A2, 0x1D7A8, 1, -119775),
  (0x1D7AA, 0x1D7BA, 1, -119801), (0x1D7BC, 0x1D7C2, 1, -119801), (0x1D7CE, 0x1D7D7, 1, -120734),
  (0x1D7D8, 0x1D7E1, 1, -120744), (0x1D7E2, 0x1D7EB, 1, -120754), (0x1D7EC, 0x1D7F5, 1, -120764),
  (0x1D7F6, 0x1D7FF, 1, -120774), (0x1E030, 0x1E038, 1, -121856), (0x1E039, 0x1E03B, 1, -121855),
  (0x1E03C, 0x1E046, 1, -121854), (0x1E051, 0x1E059, 1, -121889), (0x1E05F, 0x1E064, 1, -121884),
  (0x1E900, 0x1E921, 1, 34), (0x1EE0A, 0x1EE0D, 1, -124871), (0x1EE2A, 0x1EE2D, 1, -124903),
  (0x1EE8B, 0x1EE8D, 1, -124999), (0x1EEAB, 0x1EEAD, 1, -125031), (0x1F130, 0x1F149, 1, -127183),
  (0x1FBF0, 0x1FBF9, 1, -129984)]

/-- The characters that stand for others one by one: the first of neighbours, and what each of them
stands for, with bars between. -/
def replacementTexts : List (Nat × String) :=
  [(0xA0, " "), (0xA8, " \u0308"), (0xAA, "a"), (0xAF, " \u0304"), (0xB2, "2|3| \u0301|μ"),
  (0xB8, " \u0327|1|o"), (0xBC, "1⁄4|1⁄2|3⁄4"), (0x130, "i\u0307"), (0x132, "ij|ij|ĵ"),
  (0x136, "ķ"), (0x13F, "l·|l·"), (0x149, "ʼn"), (0x178, "ÿ"), (0x17F, "s"), (0x181, "ɓ|ƃ"),
  (0x184, "ƅ"), (0x186, "ɔ|ƈ"), (0x189, "ɖ|ɗ|ƌ"), (0x18E, "ǝ|ə|ɛ|ƒ"), (0x193, "ɠ|ɣ"),
  (0x196, "ɩ|ɨ|ƙ"), (0x19C, "ɯ|ɲ"), (0x19F, "ɵ"), (0x1A6, "ʀ|ƨ"), (0x1A9, "ʃ"), (0x1AC, "ƭ"),
  (0x1AE, "ʈ|ư"), (0x1B1, "ʊ|ʋ|ƴ"), (0x1B5, "ƶ"), (0x1B7, "ʒ|ƹ"), (0x1BC, "ƽ"),
  (0x1C4, "dž|dž|dž|lj|lj|lj|nj|nj|nj"), (0x1F1, "dz|dz|dz|ǵ"), (0x1F6, "ƕ|ƿ"), (0x220, "ƞ"),
  (0x23A, "ⱥ|ȼ"), (0x23D, "ƚ|ⱦ"), (0x241, "ɂ"), (0x243, "ƀ|ʉ|ʌ"), (0x2B0, "h|ɦ|j|r|ɹ|ɻ|ʁ|w|y"),
  (0x2D8, " \u0306| \u0307| \u030a| \u0328| \u0303| \u030b"), (0x2E0, "ɣ|l|s|x|ʕ"),
  (0x340, "\u0300|\u0301"), (0x343, "\u0313|\u0308\u0301|ι"), (0x370, "ͱ"), (0x372, "ͳ"),
  (0x374, "ʹ"), (0x376, "ͷ"), (0x37A, " ι"), (0x37E, ";|ϳ"), (0x384, " \u0301| \u0308\u0301|ά|·"),
  (0x38C, "ό"), (0x38E, "ύ|ώ"), (0x3CF, "ϗ|β|θ|υ|ύ|ϋ|φ|π"), (0x3F0, "κ|ρ|σ"), (0x3F4, "θ|ε"),
  (0x3F7, "ϸ"), (0x3F9, "σ|ϻ"), (0x4C0, "ӏ"), (0x587, "եւ"),
  (0x675, "\u0627\u0674|\u0648\u0674|\u06c7\u0674|\u064a\u0674"),
  (0x958, "क\u093c|ख\u093c|ग\u093c|ज\u093c|ड\u093c|ढ\u093c|फ\u093c|य\u093c"),
  (0x9DC, "ড\u09bc|ঢ\u09bc"), (0x9DF, "য\u09bc"), (0xA33, "ਲ\u0a3c"), (0xA36, "ਸ\u0a3c"),
  (0xA59, "ਖ\u0a3c|ਗ\u0a3c|ਜ\u0a3c"), (0xA5E, "ਫ\u0a3c"), (0xB5C, "ଡ\u0b3c|ଢ\u0b3c"),
  (0xE33, "\u0e4dา"), (0xEB3, "\u0ecdາ"), (0xEDC, "ຫນ|ຫມ"), (0xF0C, "་"), (0xF43, "ག\u0fb7"),
  (0xF4D, "ཌ\u0fb7"), (0xF52, "ད\u0fb7"), (0xF57, "བ\u0fb7"), (0xF5C, "ཛ\u0fb7"),
  (0xF69, "ཀ\u0fb5"), (0xF73, "\u0f71\u0f72"),
  (0xF75, "\u0f71\u0f74|\u0fb2\u0f80|\u0fb2\u0f71\u0f80|\u0fb3\u0f80|\u0fb3\u0f71\u0f80"),
  (0xF81, "\u0f71\u0f80"), (0xF93, "\u0f92\u0fb7"), (0xF9D, "\u0f9c\u0fb7"),
  (0xFA2, "\u0fa1\u0fb7"), (0xFA7, "\u0fa6\u0fb7"), (0xFAC, "\u0fab\u0fb7"),
  (0xFB9, "\u0f90\u0fb5"), (0x10C7, "ⴧ"), (0x10CD, "ⴭ"), (0x10FC, "ნ"),
  (0x1C80, "в|д|о|с|т|т|ъ|ѣ|ꙋ|\u1c8a"), (0x1D2C, "a|æ|b"), (0x1D30, "d"), (0x1D32, "ǝ"),
  (0x1D3C, "o|ȣ|p|r|t|u|w|a|ɐ|ɑ|ᴂ|b|d|e|ə|ɛ|ɜ|g"), (0x1D4F, "k|m|ŋ|o|ɔ|ᴖ|ᴗ|p|t|u|ᴝ|ɯ|v|ᴥ"),
  (0x1D60, "φ|χ|i|r|u|v|β|γ|ρ|φ|χ"), (0x1D78, "н"), (0x1D9B, "ɒ|c|ɕ|ð|ɜ|f|ɟ|ɡ|ɥ"),
  (0x1DA7, "ᵻ|ʝ|ɭ|ᶅ|ʟ|ɱ|ɰ"), (0x1DB2, "ɸ|ʂ|ʃ|ƫ|ʉ|ʊ|ᴜ|ʋ|ʌ|z"), (0x1DBF, "θ"), (0x1E9A, "aʾ|ṡ"),
  (0x1E9E, "ß"), (0x1F71, "ά"), (0x1F73, "έ"), (0x1F75, "ή"), (0x1F77, "ί"), (0x1F79, "ό"),
  (0x1F7B, "ύ"), (0x1F7D, "ώ"),
  (0x1F80, "ἀι|ἁι|ἂι|ἃι|ἄι|ἅι|ἆι|ἇι|ἀι|ἁι|ἂι|ἃι|ἄι|ἅι|ἆι|ἇι|ἠι|ἡι|ἢι|ἣι|ἤι|ἥι|ἦι|ἧι|ἠι|ἡι|ἢι"),
  (0x1F9B, "ἣι|ἤι|ἥι|ἦι|ἧι|ὠι|ὡι|ὢι|ὣι|ὤι|ὥι|ὦι|ὧι|ὠι|ὡι|ὢι|ὣι|ὤι|ὥι|ὦι|ὧι"), (0x1FB2, "ὰι|αι|άι"),
  (0x1FB7, "ᾶι|ᾰ|ᾱ|ὰ|ά|αι| \u0313|ι| \u0313| \u0342| \u0308\u0342|ὴι|ηι|ήι"),
  (0x1FC7, "ῆι|ὲ|έ|ὴ|ή|ηι| \u0313\u0300| \u0313\u0301| \u0313\u0342"), (0x1FD3, "ΐ"),
  (0x1FD8, "ῐ|ῑ|ὶ|ί"), (0x1FDD, " \u0314\u0300| \u0314\u0301| \u0314\u0342"), (0x1FE3, "ΰ"),
  (0x1FE8, "ῠ|ῡ|ὺ|ύ|ῥ| \u0308\u0300| \u0308\u0301|\x60"), (0x1FF2, "ὼι|ωι|ώι"),
  (0x1FF7, "ῶι|ὸ|ό|ὼ|ώ|ωι| \u0301| \u0314"), (0x2000, " | | | | | | | | | | "), (0x2011, "‐"),
  (0x2017, " \u0333"), (0x202F, " "), (0x2033, "′′|′′′"), (0x2036, "‵‵|‵‵‵"), (0x203C, "!!"),
  (0x203E, " \u0305"), (0x2047, "??|?!|!?"), (0x2057, "′′′′"), (0x205F, " "), (0x2070, "0|i"),
  (0x207A, "+|−|=|(|)|n"), (0x208A, "+|−|=|(|)"), (0x2090, "a|e|o|x|ə|h"), (0x209A, "p|s|t"),
  (0x20A8, "rs"), (0x2100, "a/c|a/s|c|°c"), (0x2105, "c/o|c/u|ɛ"),
  (0x2109, "°f|g|h|h|h|h|ħ|i|i|l|l"), (0x2115, "n|no"), (0x211C, "r|r"), (0x2120, "sm|tel|tm"),
  (0x2124, "z"), (0x2126, "ω"), (0x2128, "z"), (0x212A, "k|å|b|c"), (0x212F, "e|e|f|ⅎ|m|o"),
  (0x2139, "i"), (0x213B, "fax|π|γ|γ|π|∑"), (0x2145, "d|d|e|i|j"),
  (0x2150, "1⁄7|1⁄9|1⁄10|1⁄3|2⁄3|1⁄5|2⁄5|3⁄5|4⁄5|1⁄6|5⁄6|1⁄8|3⁄8|5⁄8|7⁄8|1⁄|i|ii|iii|iv|v|vi"),
  (0x2166, "vii|viii|ix|x|xi|xii|l|c|d|m|i|ii|iii|iv|v|vi|vii|viii|ix|x|xi|xii|l|c|d|m"),
  (0x2183, "ↄ"), (0x2189, "0⁄3"), (0x222C, "∫∫|∫∫∫"), (0x222F, "∮∮|∮∮∮"), (0x2329, "〈|〉"),
  (0x2469, "10|11|12|13|14|15|16|17|18|19|20|(1)|(2)|(3)|(4)|(5)|(6)|(7)|(8)|(9)|(10)|(11)"),
  (0x247F, "(12)|(13)|(14)|(15)|(16)|(17)|(18)|(19)|(20)"),
  (0x249C, "(a)|(b)|(c)|(d)|(e)|(f)|(g)|(h)|(i)|(j)|(k)|(l)|(m)|(n)|(o)|(p)|(q)|(r)|(s)|(t)"),
  (0x24B0, "(u)|(v)|(w)|(x)|(y)|(z)"), (0x24EA, "0"), (0x2A0C, "∫∫∫∫"), (0x2A74, "::=|==|==="),
  (0x2ADC, "⫝\u0338"), (0x2C60, "ⱡ"), (0x2C62, "ɫ|ᵽ|ɽ"), (0x2C6D, "ɑ|ɱ|ɐ|ɒ"), (0x2C72, "ⱳ"),
  (0x2C75, "ⱶ"), (0x2C7C, "j|v|ȿ|ɀ"), (0x2CEB, "ⳬ"), (0x2CED, "ⳮ"), (0x2CF2, "ⳳ"), (0x2D6F, "ⵡ"),
  (0x2E9F, "母"), (0x2EF3, "龟"),
  (0x2F00, "一|丨|丶|丿|乙|亅|二|亠|人|儿|入|八|冂|冖|冫|几|凵|刀|力|勹|匕|匚|匸|十|卜|卩|厂|厶|又|口|囗|土|士|夂|夊|夕|大|女|子|宀"),
  (0x2F28, "寸|小|尢|尸|屮|山|巛|工|己|巾|干|幺|广|廴|廾|弋|弓|彐|彡|彳|心|戈|戶|手|支|攴|文|斗|斤|方|无|日|曰|月|木|欠|止|歹|殳|毋"),
  (0x2F50, "比|毛|氏|气|水|火|爪|父|爻|爿|片|牙|牛|犬|玄|玉|瓜|瓦|甘|生|用|田|疋|疒|癶|白|皮|皿|目|矛|矢|石|示|禸|禾|穴|立|竹|米|糸"),
  (0x2F78, "缶|网|羊|羽|老|而|耒|耳|聿|肉|臣|自|至|臼|舌|舛|舟|艮|色|艸|虍|虫|血|行|衣|襾|見|角|言|谷|豆|豕|豸|貝|赤|走|足|身|車|辛"),
  (0x2FA0, "辰|辵|邑|酉|釆|里|金|長|門|阜|隶|隹|雨|靑|非|面|革|韋|韭|音|頁|風|飛|食|首|香|馬|骨|高|髟|鬥|鬯|鬲|鬼|魚|鳥|鹵|鹿|麥|麻"),
  (0x2FC8, "黃|黍|黑|黹|黽|鼎|鼓|鼠|鼻|齊|齒|龍|龜|龠"), (0x3000, " "), (0x3002, "."), (0x3036, "〒"),
  (0x3038, "十|卄|卅"), (0x309B, " \u3099| \u309a"), (0x309F, "より"), (0x30FF, "コト"),
  (0x3131, "ᄀ|ᄁ|ᆪ|ᄂ|ᆬ|ᆭ"), (0x3140, "ᄚ"), (0x3144, "ᄡ"),
  (0x3165, "ᄔ|ᄕ|ᇇ|ᇈ|ᇌ|ᇎ|ᇓ|ᇗ|ᇙ|ᄜ|ᇝ|ᇟ|ᄝ|ᄞ|ᄠ|ᄢ|ᄣ|ᄧ|ᄩ"), (0x317D, "ᄲ|ᄶ|ᅀ|ᅇ|ᅌ|ᇱ|ᇲ"),
  (0x3187, "ᆄ|ᆅ|ᆈ|ᆑ|ᆒ|ᆔ|ᆞ|ᆡ"), (0x3192, "一|二|三|四|上|中|下|甲|乙|丙|丁|天|地|人"),
  (0x3200, "(ᄀ)|(ᄂ)|(ᄃ)|(ᄅ)|(ᄆ)|(ᄇ)|(ᄉ)|(ᄋ)|(ᄌ)|(ᄎ)|(ᄏ)|(ᄐ)|(ᄑ)|(ᄒ)|(가)|(나)|(다)|(라)|(마)|(바)"),
  (0x3214, "(사)|(아)|(자)|(차)|(카)|(타)|(파)|(하)|(주)|(오전)|(오후)"),
  (0x3220, "(一)|(二)|(三)|(四)|(五)|(六)|(七)|(八)|(九)|(十)|(月)|(火)|(水)|(木)|(金)|(土)|(日)|(株)|(有)|(社)"),
  (0x3234, "(名)|(特)|(財)|(祝)|(労)|(代)|(呼)|(学)|(監)|(企)|(資)|(協)|(祭)|(休)|(自)|(至)|問|幼|文|箏"),
  (0x3250, "pte|21|22|23|24|25|26|27|28|29|30|31|32|33|34|35|ᄀ|ᄂ|ᄃ"), (0x3266, "ᄉ|ᄋ|ᄌ"),
  (0x326E, "가|나|다|라|마|바|사|아|자|차|카|타|파|하|참고|주의|우"),
  (0x3280, "一|二|三|四|五|六|七|八|九|十|月|火|水|木|金|土|日|株|有|社|名|特|財|祝|労|秘|男|女|適|優|印|注|項|休|写|正|上|中|下|左"),
  (0x32A8, "右|医|宗|学|監|企|資|協|夜|36|37|38|39|40|41|42|43|44|45|46|47|48|49|50|1月|2月|3月|4月|5月|6月"),
  (0x32C6, "7月|8月|9月|10月|11月|12月|hg|erg|ev|ltd|ア|イ|ウ|エ|オ|カ|キ|ク|ケ|コ|サ|シ|ス|セ|ソ|タ|チ|ツ|テ|ト"),
  (0x32EA, "ヒ|フ|ヘ|ホ"), (0x32F3, "ヤ|ユ"),
  (0x32FF, "令和|アパート|アルファ|アンペア|アール|イニング|インチ|ウォン|エスクード|エーカー|オンス|オーム|カイリ|カラット|カロリー|ガロン|ガンマ|ギガ"),
  (0x3311, "ギニー|キュリー|ギルダー|キロ|キログラム|キロメートル|キロワット|グラム|グラムトン|クルゼイロ|クローネ|ケース|コルナ|コーポ|サイクル|サンチーム"),
  (0x3321, "シリング|センチ|セント|ダース|デシ|ドル|トン|ナノ|ノット|ハイツ|パーセント|パーツ|バーレル|ピアストル|ピクル|ピコ|ビル|ファラッド|フィート"),
  (0x3334, "ブッシェル|フラン|ヘクタール|ペソ|ペニヒ|ヘルツ|ペンス|ページ|ベータ|ポイント|ボルト|ホン|ポンド|ホール|ホーン|マイクロ|マイル|マッハ|マルク"),
  (0x3347, "マンション|ミクロン|ミリ|ミリバール|メガ|メガトン|メートル|ヤード|ヤール|ユアン|リットル|リラ|ルピー|ルーブル|レム|レントゲン|ワット|0点|1点"),
  (0x335A, "2点|3点|4点|5点|6点|7点|8点|9点|10点|11点|12点|13点|14点|15点|16点|17点|18点|19点|20点|21点|22点|23点"),
  (0x3370, "24点|hpa|da|au|bar|ov|pc|dm|dm2|dm3|iu|平成|昭和|大正|明治|株式会社|pa|na|μa|ma|ka|kb|mb|gb"),
  (0x3388, "cal|kcal|pf|nf|μf|μg|mg|kg|hz|khz|mhz|ghz|thz|μl|ml|dl|kl|fm|nm|μm|mm|cm|km|mm2"),
  (0x33A0, "cm2|m2|km2|mm3|cm3|m3|km3|m∕s|m∕s2|pa|kpa|mpa|gpa|rad|rad∕s|rad∕s2|ps|ns|μs|ms"),
  (0x33B4, "pv|nv|μv|mv|kv|mv|pw|nw|μw|mw|kw|mw|kω|mω"), (0x33C3, "bq|cc|cd|c∕kg"),
  (0x33C8, "db|gy|ha|hp|in|kk|km|kt|lm|ln|log|lx|mb|mil|mol|ph"),
  (0x33D9, "ppm|pr|sr|sv|wb|v∕m|a∕m|1日|2日|3日|4日|5日|6日|7日|8日|9日|10日|11日|12日|13日|14日|15日|16日"),
  (0x33F0, "17日|18日|19日|20日|21日|22日|23日|24日|25日|26日|27日|28日|29日|30日|31日|gal"), (0xA69C, "ъ|ь"),
  (0xA770, "ꝯ"), (0xA779, "ꝺ"), (0xA77B, "ꝼ"), (0xA77D, "ᵹ"), (0xA78B, "ꞌ"), (0xA78D, "ɥ"),
  (0xA790, "ꞑ"), (0xA792, "ꞓ"), (0xA7AA, "ɦ|ɜ|ɡ|ɬ|ɪ"), (0xA7B0, "ʞ|ʇ|ʝ|ꭓ"), (0xA7C4, "ꞔ|ʂ|ᶎ|ꟈ"),
  (0xA7C9, "ꟊ"), (0xA7CB, "ɤ"), (0xA7DC, "ƛ"), (0xA7F1, "s|c|f|q|ꟶ"), (0xA7F8, "ħ|œ"),
  (0xAB5C, "ꜧ|ꬷ|ɫ|ꭒ"), (0xAB69, "ʍ"),
  (0xF900, "豈|更|車|賈|滑|串|句|龜|龜|契|金|喇|奈|懶|癩|羅|蘿|螺|裸|邏|樂|洛|烙|珞|落|酪|駱|亂|卵|欄|爛|蘭|鸞|嵐|濫|藍|襤|拉|臘|蠟"),
  (0xF928, "廊|朗|浪|狼|郎|來|冷|勞|擄|櫓|爐|盧|老|蘆|虜|路|露|魯|鷺|碌|祿|綠|菉|錄|鹿|論|壟|弄|籠|聾|牢|磊|賂|雷|壘|屢|樓|淚|漏|累"),
  (0xF950, "縷|陋|勒|肋|凜|凌|稜|綾|菱|陵|讀|拏|樂|諾|丹|寧|怒|率|異|北|磻|便|復|不|泌|數|索|參|塞|省|葉|說|殺|辰|沈|拾|若|掠|略|亮"),
  (0xF978, "兩|凉|梁|糧|良|諒|量|勵|呂|女|廬|旅|濾|礪|閭|驪|麗|黎|力|曆|歷|轢|年|憐|戀|撚|漣|煉|璉|秊|練|聯|輦|蓮|連|鍊|列|劣|咽|烈"),
  (0xF9A0, "裂|說|廉|念|捻|殮|簾|獵|令|囹|寧|嶺|怜|玲|瑩|羚|聆|鈴|零|靈|領|例|禮|醴|隸|惡|了|僚|寮|尿|料|樂|燎|療|蓼|遼|龍|暈|阮|劉"),
  (0xF9C8, "杻|柳|流|溜|琉|留|硫|紐|類|六|戮|陸|倫|崙|淪|輪|律|慄|栗|率|隆|利|吏|履|易|李|梨|泥|理|痢|罹|裏|裡|里|離|匿|溺|吝|燐|璘"),
  (0xF9F0, "藺|隣|鱗|麟|林|淋|臨|立|笠|粒|狀|炙|識|什|茶|刺|切|度|拓|糖|宅|洞|暴|輻|行|降|見|廓|兀|嗀"), (0xFA10, "塚"),
  (0xFA12, "晴"), (0xFA15, "凞|猪|益|礼|神|祥|福|靖|精|羽"), (0xFA20, "蘒"), (0xFA22, "諸"), (0xFA25, "逸|都"),
  (0xFA2A, "飯|飼|館|鶴|郞|隷|侮|僧|免|勉|勤|卑|喝|嘆|器|塀|墨|層|屮|悔|慨|憎|懲|敏|既|暑|梅|海|渚|漢|煮|爫|琢|碑|社|祉|祈|祐|祖|祝"),
  (0xFA52, "禍|禎|穀|突|節|練|縉|繁|署|者|臭|艹|艹|著|褐|視|謁|謹|賓|贈|辶|逸|難|響|頻|恵|𤋮|舘"),
  (0xFA70, "並|况|全|侀|充|冀|勇|勺|喝|啕|喙|嗢|塚|墳|奄|奔|婢|嬨|廒|廙|彩|徭|惘|慎|愈|憎|慠|懲|戴|揄|搜|摒|敖|晴|朗|望|杖|歹|殺|流"),
  (0xFA98, "滛|滋|漢|瀞|煮|瞧|爵|犯|猪|瑱|甆|画|瘝|瘟|益|盛|直|睊|着|磌|窱|節|类|絛|練|缾|者|荒|華|蝹|襁|覆|視|調|諸|請|謁|諾|諭|謹"),
  (0xFAC0, "變|贈|輸|遲|醙|鉶|陼|難|靖|韛|響|頋|頻|鬒|龜|𢡊|𢡄|𣏕|㮝|䀘|䀹|𥉉|𥳐|𧻓|齃|龎"),
  (0xFB00, "ff|fi|fl|ffi|ffl|st|st"), (0xFB13, "մն|մե|մի|վն|մխ"), (0xFB1D, "\u05d9\u05b4"),
  (0xFB1F, "\u05f2\u05b7|\u05e2|\u05d0|\u05d3|\u05d4"),
  (0xFB27, "\u05e8|\u05ea|+|\u05e9\u05c1|\u05e9\u05c2|\u05e9\u05bc\u05c1|\u05e9\u05bc\u05c2"),
  (0xFB2E, "\u05d0\u05b7|\u05d0\u05b8|\u05d0\u05bc|\u05d1\u05bc|\u05d2\u05bc|\u05d3\u05bc"),
  (0xFB34, "\u05d4\u05bc|\u05d5\u05bc|\u05d6\u05bc"),
  (0xFB38, "\u05d8\u05bc|\u05d9\u05bc|\u05da\u05bc|\u05db\u05bc|\u05dc\u05bc"),
  (0xFB3E, "\u05de\u05bc"), (0xFB40, "\u05e0\u05bc|\u05e1\u05bc"),
  (0xFB43, "\u05e3\u05bc|\u05e4\u05bc"),
  (0xFB46, "\u05e6\u05bc|\u05e7\u05bc|\u05e8\u05bc|\u05e9\u05bc|\u05ea\u05bc|\u05d5\u05b9"),
  (0xFB4C, "\u05d1\u05bf|\u05db\u05bf|\u05e4\u05bf|\u05d0\u05dc|\u0671|\u0671|\u067b|\u067b"),
  (0xFB54, "\u067b|\u067b|\u067e|\u067e|\u067e|\u067e|\u0680|\u0680|\u0680|\u0680|\u067a"),
  (0xFB5F, "\u067a|\u067a|\u067a|\u067f|\u067f|\u067f|\u067f|\u0679|\u0679|\u0679|\u0679"),
  (0xFB6A, "\u06a4|\u06a4|\u06a4|\u06a4|\u06a6|\u06a6|\u06a6|\u06a6|\u0684|\u0684|\u0684"),
  (0xFB75, "\u0684|\u0683|\u0683|\u0683|\u0683|\u0686|\u0686|\u0686|\u0686|\u0687|\u0687"),
  (0xFB80, "\u0687|\u0687|\u068d|\u068d|\u068c|\u068c|\u068e|\u068e|\u0688|\u0688|\u0698"),
  (0xFB8B, "\u0698|\u0691|\u0691|\u06a9|\u06a9|\u06a9|\u06a9|\u06af|\u06af|\u06af|\u06af"),
  (0xFB96, "\u06b3|\u06b3|\u06b3|\u06b3|\u06b1|\u06b1|\u06b1|\u06b1|\u06ba|\u06ba|\u06bb"),
  (0xFBA1, "\u06bb|\u06bb|\u06bb|\u06c0|\u06c0|\u06c1|\u06c1|\u06c1|\u06c1|\u06be|\u06be"),
  (0xFBAC, "\u06be|\u06be|\u06d2|\u06d2|\u06d3|\u06d3"),
  (0xFBD3, "\u06ad|\u06ad|\u06ad|\u06ad|\u06c7|\u06c7|\u06c6|\u06c6|\u06c8|\u06c8"),
  (0xFBDD, "\u06c7\u0674|\u06cb|\u06cb|\u06c5|\u06c5|\u06c9|\u06c9|\u06d0|\u06d0|\u06d0"),
  (0xFBE7, "\u06d0|\u0649|\u0649|\u0626\u0627|\u0626\u0627|\u0626\u06d5|\u0626\u06d5"),
  (0xFBEE, "\u0626\u0648|\u0626\u0648|\u0626\u06c7|\u0626\u06c7|\u0626\u06c6|\u0626\u06c6"),
  (0xFBF4, "\u0626\u06c8|\u0626\u06c8|\u0626\u06d0|\u0626\u06d0|\u0626\u06d0|\u0626\u0649"),
  (0xFBFA, "\u0626\u0649|\u0626\u0649|\u06cc|\u06cc|\u06cc|\u06cc|\u0626\u062c|\u0626\u062d"),
  (0xFC02, "\u0626\u0645|\u0626\u0649|\u0626\u064a|\u0628\u062c|\u0628\u062d|\u0628\u062e"),
  (0xFC08, "\u0628\u0645|\u0628\u0649|\u0628\u064a|\u062a\u062c|\u062a\u062d|\u062a\u062e"),
  (0xFC0E, "\u062a\u0645|\u062a\u0649|\u062a\u064a|\u062b\u062c|\u062b\u0645|\u062b\u0649"),
  (0xFC14, "\u062b\u064a|\u062c\u062d|\u062c\u0645|\u062d\u062c|\u062d\u0645|\u062e\u062c"),
  (0xFC1A, "\u062e\u062d|\u062e\u0645|\u0633\u062c|\u0633\u062d|\u0633\u062e|\u0633\u0645"),
  (0xFC20, "\u0635\u062d|\u0635\u0645|\u0636\u062c|\u0636\u062d|\u0636\u062e|\u0636\u0645"),
  (0xFC26, "\u0637\u062d|\u0637\u0645|\u0638\u0645|\u0639\u062c|\u0639\u0645|\u063a\u062c"),
  (0xFC2C, "\u063a\u0645|\u0641\u062c|\u0641\u062d|\u0641\u062e|\u0641\u0645|\u0641\u0649"),
  (0xFC32, "\u0641\u064a|\u0642\u062d|\u0642\u0645|\u0642\u0649|\u0642\u064a|\u0643\u0627"),
  (0xFC38, "\u0643\u062c|\u0643\u062d|\u0643\u062e|\u0643\u0644|\u0643\u0645|\u0643\u0649"),
  (0xFC3E, "\u0643\u064a|\u0644\u062c|\u0644\u062d|\u0644\u062e|\u0644\u0645|\u0644\u0649"),
  (0xFC44, "\u0644\u064a|\u0645\u062c|\u0645\u062d|\u0645\u062e|\u0645\u0645|\u0645\u0649"),
  (0xFC4A, "\u0645\u064a|\u0646\u062c|\u0646\u062d|\u0646\u062e|\u0646\u0645|\u0646\u0649"),
  (0xFC50, "\u0646\u064a|\u0647\u062c|\u0647\u0645|\u0647\u0649|\u0647\u064a|\u064a\u062c"),
  (0xFC56, "\u064a\u062d|\u064a\u062e|\u064a\u0645|\u064a\u0649|\u064a\u064a|\u0630\u0670"),
  (0xFC5C, "\u0631\u0670|\u0649\u0670| \u064c\u0651| \u064d\u0651| \u064e\u0651"),
  (0xFC61, " \u064f\u0651| \u0650\u0651| \u0651\u0670|\u0626\u0631|\u0626\u0632|\u0626\u0645"),
  (0xFC67, "\u0626\u0646|\u0626\u0649|\u0626\u064a|\u0628\u0631|\u0628\u0632|\u0628\u0645"),
  (0xFC6D, "\u0628\u0646|\u0628\u0649|\u0628\u064a|\u062a\u0631|\u062a\u0632|\u062a\u0645"),
  (0xFC73, "\u062a\u0646|\u062a\u0649|\u062a\u064a|\u062b\u0631|\u062b\u0632|\u062b\u0645"),
  (0xFC79, "\u062b\u0646|\u062b\u0649|\u062b\u064a|\u0641\u0649|\u0641\u064a|\u0642\u0649"),
  (0xFC7F, "\u0642\u064a|\u0643\u0627|\u0643\u0644|\u0643\u0645|\u0643\u0649|\u0643\u064a"),
  (0xFC85, "\u0644\u0645|\u0644\u0649|\u0644\u064a|\u0645\u0627|\u0645\u0645|\u0646\u0631"),
  (0xFC8B, "\u0646\u0632|\u0646\u0645|\u0646\u0646|\u0646\u0649|\u0646\u064a|\u0649\u0670"),
  (0xFC91, "\u064a\u0631|\u064a\u0632|\u064a\u0645|\u064a\u0646|\u064a\u0649|\u064a\u064a"),
  (0xFC97, "\u0626\u062c|\u0626\u062d|\u0626\u062e|\u0626\u0645|\u0626\u0647|\u0628\u062c"),
  (0xFC9D, "\u0628\u062d|\u0628\u062e|\u0628\u0645|\u0628\u0647|\u062a\u062c|\u062a\u062d"),
  (0xFCA3, "\u062a\u062e|\u062a\u0645|\u062a\u0647|\u062b\u0645|\u062c\u062d|\u062c\u0645"),
  (0xFCA9, "\u062d\u062c|\u062d\u0645|\u062e\u062c|\u062e\u0645|\u0633\u062c|\u0633\u062d"),
  (0xFCAF, "\u0633\u062e|\u0633\u0645|\u0635\u062d|\u0635\u062e|\u0635\u0645|\u0636\u062c"),
  (0xFCB5, "\u0636\u062d|\u0636\u062e|\u0636\u0645|\u0637\u062d|\u0638\u0645|\u0639\u062c"),
  (0xFCBB, "\u0639\u0645|\u063a\u062c|\u063a\u0645|\u0641\u062c|\u0641\u062d|\u0641\u062e"),
  (0xFCC1, "\u0641\u0645|\u0642\u062d|\u0642\u0645|\u0643\u062c|\u0643\u062d|\u0643\u062e"),
  (0xFCC7, "\u0643\u0644|\u0643\u0645|\u0644\u062c|\u0644\u062d|\u0644\u062e|\u0644\u0645"),
  (0xFCCD, "\u0644\u0647|\u0645\u062c|\u0645\u062d|\u0645\u062e|\u0645\u0645|\u0646\u062c"),
  (0xFCD3, "\u0646\u062d|\u0646\u062e|\u0646\u0645|\u0646\u0647|\u0647\u062c|\u0647\u0645"),
  (0xFCD9, "\u0647\u0670|\u064a\u062c|\u064a\u062d|\u064a\u062e|\u064a\u0645|\u064a\u0647"),
  (0xFCDF, "\u0626\u0645|\u0626\u0647|\u0628\u0645|\u0628\u0647|\u062a\u0645|\u062a\u0647"),
  (0xFCE5, "\u062b\u0645|\u062b\u0647|\u0633\u0645|\u0633\u0647|\u0634\u0645|\u0634\u0647"),
  (0xFCEB, "\u0643\u0644|\u0643\u0645|\u0644\u0645|\u0646\u0645|\u0646\u0647|\u064a\u0645"),
  (0xFCF1, "\u064a\u0647|\u0640\u064e\u0651|\u0640\u064f\u0651|\u0640\u0650\u0651"),
  (0xFCF5, "\u0637\u0649|\u0637\u064a|\u0639\u0649|\u0639\u064a|\u063a\u0649|\u063a\u064a"),
  (0xFCFB, "\u0633\u0649|\u0633\u064a|\u0634\u0649|\u0634\u064a|\u062d\u0649|\u062d\u064a"),
  (0xFD01, "\u062c\u0649|\u062c\u064a|\u062e\u0649|\u062e\u064a|\u0635\u0649|\u0635\u064a"),
  (0xFD07, "\u0636\u0649|\u0636\u064a|\u0634\u062c|\u0634\u062d|\u0634\u062e|\u0634\u0645"),
  (0xFD0D, "\u0634\u0631|\u0633\u0631|\u0635\u0631|\u0636\u0631|\u0637\u0649|\u0637\u064a"),
  (0xFD13, "\u0639\u0649|\u0639\u064a|\u063a\u0649|\u063a\u064a|\u0633\u0649|\u0633\u064a"),
  (0xFD19, "\u0634\u0649|\u0634\u064a|\u062d\u0649|\u062d\u064a|\u062c\u0649|\u062c\u064a"),
  (0xFD1F, "\u062e\u0649|\u062e\u064a|\u0635\u0649|\u0635\u064a|\u0636\u0649|\u0636\u064a"),
  (0xFD25, "\u0634\u062c|\u0634\u062d|\u0634\u062e|\u0634\u0645|\u0634\u0631|\u0633\u0631"),
  (0xFD2B, "\u0635\u0631|\u0636\u0631|\u0634\u062c|\u0634\u062d|\u0634\u062e|\u0634\u0645"),
  (0xFD31, "\u0633\u0647|\u0634\u0647|\u0637\u0645|\u0633\u062c|\u0633\u062d|\u0633\u062e"),
  (0xFD37, "\u0634\u062c|\u0634\u062d|\u0634\u062e|\u0637\u0645|\u0638\u0645|\u0627\u064b"),
  (0xFD3D, "\u0627\u064b"),
  (0xFD50, "\u062a\u062c\u0645|\u062a\u062d\u062c|\u062a\u062d\u062c|\u062a\u062d\u0645"),
  (0xFD54, "\u062a\u062e\u0645|\u062a\u0645\u062c|\u062a\u0645\u062d|\u062a\u0645\u062e"),
  (0xFD58, "\u062c\u0645\u062d|\u062c\u0645\u062d|\u062d\u0645\u064a|\u062d\u0645\u0649"),
  (0xFD5C, "\u0633\u062d\u062c|\u0633\u062c\u062d|\u0633\u062c\u0649|\u0633\u0645\u062d"),
  (0xFD60, "\u0633\u0645\u062d|\u0633\u0645\u062c|\u0633\u0645\u0645|\u0633\u0645\u0645"),
  (0xFD64, "\u0635\u062d\u062d|\u0635\u062d\u062d|\u0635\u0645\u0645|\u0634\u062d\u0645"),
  (0xFD68, "\u0634\u062d\u0645|\u0634\u062c\u064a|\u0634\u0645\u062e|\u0634\u0645\u062e"),
  (0xFD6C, "\u0634\u0645\u0645|\u0634\u0645\u0645|\u0636\u062d\u0649|\u0636\u062e\u0645"),
  (0xFD70, "\u0636\u062e\u0645|\u0637\u0645\u062d|\u0637\u0645\u062d|\u0637\u0645\u0645"),
  (0xFD74, "\u0637\u0645\u064a|\u0639\u062c\u0645|\u0639\u0645\u0645|\u0639\u0645\u0645"),
  (0xFD78, "\u0639\u0645\u0649|\u063a\u0645\u0645|\u063a\u0645\u064a|\u063a\u0645\u0649"),
  (0xFD7C, "\u0641\u062e\u0645|\u0641\u062e\u0645|\u0642\u0645\u062d|\u0642\u0645\u0645"),
  (0xFD80, "\u0644\u062d\u0645|\u0644\u062d\u064a|\u0644\u062d\u0649|\u0644\u062c\u062c"),
  (0xFD84, "\u0644\u062c\u062c|\u0644\u062e\u0645|\u0644\u062e\u0645|\u0644\u0645\u062d"),
  (0xFD88, "\u0644\u0645\u062d|\u0645\u062d\u062c|\u0645\u062d\u0645|\u0645\u062d\u064a"),
  (0xFD8C, "\u0645\u062c\u062d|\u0645\u062c\u0645|\u0645\u062e\u062c|\u0645\u062e\u0645"),
  (0xFD92, "\u0645\u062c\u062e|\u0647\u0645\u062c|\u0647\u0645\u0645|\u0646\u062d\u0645"),
  (0xFD96, "\u0646\u062d\u0649|\u0646\u062c\u0645|\u0646\u062c\u0645|\u0646\u062c\u0649"),
  (0xFD9A, "\u0646\u0645\u064a|\u0646\u0645\u0649|\u064a\u0645\u0645|\u064a\u0645\u0645"),
  (0xFD9E, "\u0628\u062e\u064a|\u062a\u062c\u064a|\u062a\u062c\u0649|\u062a\u062e\u064a"),
  (0xFDA2, "\u062a\u062e\u0649|\u062a\u0645\u064a|\u062a\u0645\u0649|\u062c\u0645\u064a"),
  (0xFDA6, "\u062c\u062d\u0649|\u062c\u0645\u0649|\u0633\u062e\u0649|\u0635\u062d\u064a"),
  (0xFDAA, "\u0634\u062d\u064a|\u0636\u062d\u064a|\u0644\u062c\u064a|\u0644\u0645\u064a"),
  (0xFDAE, "\u064a\u062d\u064a|\u064a\u062c\u064a|\u064a\u0645\u064a|\u0645\u0645\u064a"),
  (0xFDB2, "\u0642\u0645\u064a|\u0646\u062d\u064a|\u0642\u0645\u062d|\u0644\u062d\u0645"),
  (0xFDB6, "\u0639\u0645\u064a|\u0643\u0645\u064a|\u0646\u062c\u062d|\u0645\u062e\u064a"),
  (0xFDBA, "\u0644\u062c\u0645|\u0643\u0645\u0645|\u0644\u062c\u0645|\u0646\u062c\u062d"),
  (0xFDBE, "\u062c\u062d\u064a|\u062d\u062c\u064a|\u0645\u062c\u064a|\u0641\u0645\u064a"),
  (0xFDC2, "\u0628\u062d\u064a|\u0643\u0645\u0645|\u0639\u062c\u0645|\u0635\u0645\u0645"),
  (0xFDC6, "\u0633\u062e\u064a|\u0646\u062c\u064a"),
  (0xFDF0, "\u0635\u0644\u06d2|\u0642\u0644\u06d2|\u0627\u0644\u0644\u0647"),
  (0xFDF3, "\u0627\u0643\u0628\u0631|\u0645\u062d\u0645\u062f|\u0635\u0644\u0639\u0645"),
  (0xFDF6, "\u0631\u0633\u0648\u0644|\u0639\u0644\u064a\u0647|\u0648\u0633\u0644\u0645"),
  (0xFDF9, "\u0635\u0644\u0649"),
  (0xFDFA, "\u0635\u0644\u0649 " ++
    "\u0627\u0644\u0644\u0647 \u0639\u0644\u064a\u0647 \u0648\u0633\u0644\u0645"),
  (0xFDFB, "\u062c\u0644 \u062c\u0644\u0627\u0644\u0647|\u0631\u06cc\u0627\u0644"), (0xFE10, ",|、"),
  (0xFE13, ":|;|!|?|〖|〗"), (0xFE31, "—|–|_|_|(|)|\x7b|\x7d|〔|〕|【|】|《|》|〈|〉"),
  (0xFE47, "[|]| \u0305| \u0305| \u0305| \u0305|_|_|_|,|、"),
  (0xFE54, ";|:|?|!|—|(|)|\x7b|\x7d|〔|〕|#|&|*|+|-|<|>|="), (0xFE68, "\\|$|%|@"),
  (0xFE70, " \u064b|\u0640\u064b| \u064c"), (0xFE74, " \u064d"),
  (0xFE76, " \u064e|\u0640\u064e| \u064f|\u0640\u064f| \u0650|\u0640\u0650| \u0651"),
  (0xFE7D, "\u0640\u0651| \u0652|\u0640\u0652|\u0621|\u0622|\u0622|\u0623|\u0623|\u0624"),
  (0xFE86, "\u0624|\u0625|\u0625|\u0626|\u0626|\u0626|\u0626|\u0627|\u0627|\u0628|\u0628"),
  (0xFE91, "\u0628|\u0628|\u0629|\u0629|\u062a|\u062a|\u062a|\u062a|\u062b|\u062b|\u062b"),
  (0xFE9C, "\u062b|\u062c|\u062c|\u062c|\u062c|\u062d|\u062d|\u062d|\u062d|\u062e|\u062e"),
  (0xFEA7, "\u062e|\u062e|\u062f|\u062f|\u0630|\u0630|\u0631|\u0631|\u0632|\u0632|\u0633"),
  (0xFEB2, "\u0633|\u0633|\u0633|\u0634|\u0634|\u0634|\u0634|\u0635|\u0635|\u0635|\u0635"),
  (0xFEBD, "\u0636|\u0636|\u0636|\u0636|\u0637|\u0637|\u0637|\u0637|\u0638|\u0638|\u0638"),
  (0xFEC8, "\u0638|\u0639|\u0639|\u0639|\u0639|\u063a|\u063a|\u063a|\u063a|\u0641|\u0641"),
  (0xFED3, "\u0641|\u0641|\u0642|\u0642|\u0642|\u0642|\u0643|\u0643|\u0643|\u0643|\u0644"),
  (0xFEDE, "\u0644|\u0644|\u0644|\u0645|\u0645|\u0645|\u0645|\u0646|\u0646|\u0646|\u0646"),
  (0xFEE9, "\u0647|\u0647|\u0647|\u0647|\u0648|\u0648|\u0649|\u0649|\u064a|\u064a|\u064a"),
  (0xFEF4, "\u064a|\u0644\u0622|\u0644\u0622|\u0644\u0623|\u0644\u0623|\u0644\u0625"),
  (0xFEFA, "\u0644\u0625|\u0644\u0627|\u0644\u0627"),
  (0xFF5F, "⦅|⦆|.|「|」|、|・|ヲ|ァ|ィ|ゥ|ェ|ォ|ャ|ュ|ョ|ッ|ー|ア|イ|ウ|エ|オ|カ|キ|ク|ケ|コ|サ|シ|ス|セ|ソ|タ|チ|ツ|テ|ト"),
  (0xFF8B, "ヒ|フ|ヘ|ホ"), (0xFF94, "ヤ|ユ"), (0xFF9C, "ワ|ン|\u3099|\u309a"), (0xFFA1, "ᄀ|ᄁ|ᆪ|ᄂ|ᆬ|ᆭ"),
  (0xFFB0, "ᄚ"), (0xFFB4, "ᄡ"), (0xFFE0, "¢|£|¬| \u0304|¦|¥|₩"), (0xFFE8, "│"), (0xFFED, "■|○"),
  (0x10595, "𐖼"), (0x10781, "ː|ˑ|æ|ʙ|ɓ"),
  (0x10787, "ʣ|ꭦ|ʥ|ʤ|ɖ|ɗ|ᶑ|ɘ|ɞ|ʩ|ɤ|ɢ|ɠ|ʛ|ħ|ʜ|ɧ|ʄ|ʪ|ʫ|ɬ|𝼄|ꞎ|ɮ|𝼅|ʎ|𝼆|ø|ɶ|ɷ|q|ɺ|𝼈|ɽ|ɾ|ʀ|ʨ|ʦ|ꭧ|ʧ"),
  (0x107AF, "ʈ|ⱱ"), (0x107B2, "ʏ|ʡ|ʢ|ʘ"), (0x107B9, "𝼊|𝼞"), (0x1D15E, "𝅗𝅥|𝅘𝅥|𝅘𝅥𝅮|𝅘𝅥𝅯|𝅘𝅥𝅰|𝅘𝅥𝅱|𝅘𝅥𝅲"),
  (0x1D1BB, "𝆹𝅥|𝆺𝅥|𝆹𝅥𝅮|𝆺𝅥𝅮|𝆹𝅥𝅯|𝆺𝅥𝅯"), (0x1D49C, "a"), (0x1D49E, "c|d"), (0x1D4A2, "g"),
  (0x1D4A5, "j|k"), (0x1D504, "a"), (0x1D508, "e"), (0x1D50A, "g"), (0x1D538, "a"), (0x1D541, "j"),
  (0x1D543, "l"), (0x1D6A4, "ı|ȷ"), (0x1D6B9, "θ"), (0x1D6C1, "∇"), (0x1D6D3, "σ"),
  (0x1D6DB, "∂|ε|θ|κ|φ|ρ|π"), (0x1D6F3, "θ"), (0x1D6FB, "∇"), (0x1D70D, "σ"),
  (0x1D715, "∂|ε|θ|κ|φ|ρ|π"), (0x1D72D, "θ"), (0x1D735, "∇"), (0x1D747, "σ"),
  (0x1D74F, "∂|ε|θ|κ|φ|ρ|π"), (0x1D767, "θ"), (0x1D76F, "∇"), (0x1D781, "σ"),
  (0x1D789, "∂|ε|θ|κ|φ|ρ|π"), (0x1D7A1, "θ"), (0x1D7A9, "∇"), (0x1D7BB, "σ"),
  (0x1D7C3, "∂|ε|θ|κ|φ|ρ|π|ϝ|ϝ"), (0x1E047, "ы|э|ю|ꚉ|ә|і|ј|ө|ү|ӏ"), (0x1E05A, "к|л|о|п|с"),
  (0x1E065, "ъ|ы|ґ|і|ѕ|џ|ҫ|ꙑ|ұ"), (0x1EE00, "\u0627|\u0628|\u062c|\u062f"),
  (0x1EE05, "\u0648|\u0632|\u062d|\u0637|\u064a"),
  (0x1EE0E, "\u0633|\u0639|\u0641|\u0635|\u0642|\u0631|\u0634|\u062a|\u062b|\u062e|\u0630"),
  (0x1EE19, "\u0636|\u0638|\u063a|\u066e|\u06ba|\u06a1|\u066f"), (0x1EE21, "\u0628|\u062c"),
  (0x1EE24, "\u0647"), (0x1EE27, "\u062d"), (0x1EE29, "\u064a"),
  (0x1EE2E, "\u0633|\u0639|\u0641|\u0635|\u0642"), (0x1EE34, "\u0634|\u062a|\u062b|\u062e"),
  (0x1EE39, "\u0636"), (0x1EE3B, "\u063a"), (0x1EE42, "\u062c"), (0x1EE47, "\u062d"),
  (0x1EE49, "\u064a"), (0x1EE4B, "\u0644"), (0x1EE4D, "\u0646|\u0633|\u0639"),
  (0x1EE51, "\u0635|\u0642"), (0x1EE54, "\u0634"), (0x1EE57, "\u062e"), (0x1EE59, "\u0636"),
  (0x1EE5B, "\u063a"), (0x1EE5D, "\u06ba"), (0x1EE5F, "\u066f"), (0x1EE61, "\u0628|\u062c"),
  (0x1EE64, "\u0647"), (0x1EE67, "\u062d|\u0637|\u064a|\u0643"),
  (0x1EE6C, "\u0645|\u0646|\u0633|\u0639|\u0641|\u0635|\u0642"),
  (0x1EE74, "\u0634|\u062a|\u062b|\u062e"), (0x1EE79, "\u0636|\u0638|\u063a|\u066e"),
  (0x1EE7E, "\u06a1"),
  (0x1EE80, "\u0627|\u0628|\u062c|\u062f|\u0647|\u0648|\u0632|\u062d|\u0637|\u064a"),
  (0x1EE8E, "\u0633|\u0639|\u0641|\u0635|\u0642|\u0631|\u0634|\u062a|\u062b|\u062e|\u0630"),
  (0x1EE99, "\u0636|\u0638|\u063a"), (0x1EEA1, "\u0628|\u062c|\u062f"),
  (0x1EEA5, "\u0648|\u0632|\u062d|\u0637|\u064a"),
  (0x1EEAE, "\u0633|\u0639|\u0641|\u0635|\u0642|\u0631|\u0634|\u062a|\u062b|\u062e|\u0630"),
  (0x1EEB9, "\u0636|\u0638|\u063a"), (0x1F101, "0,|1,|2,|3,|4,|5,|6,|7,|8,|9,"),
  (0x1F110, "(a)|(b)|(c)|(d)|(e)|(f)|(g)|(h)|(i)|(j)|(k)|(l)|(m)|(n)|(o)|(p)|(q)|(r)|(s)|(t)"),
  (0x1F124, "(u)|(v)|(w)|(x)|(y)|(z)|〔s〕|c|r|cd|wz"), (0x1F14A, "hv|mv|sd|ss|ppv|wc"),
  (0x1F16A, "mc|md|mr"), (0x1F190, "dj"), (0x1F200, "ほか|ココ|サ"),
  (0x1F210, "手|字|双|デ|二|多|解|天|交|映|無|料|前|後|再|新|初|終|生|販|声|吹|演|投|捕|一|三|遊|左|中|右|指|走|打|禁|空|合|満|有|月"),
  (0x1F238, "申|割|営|配"), (0x1F240, "〔本〕|〔三〕|〔二〕|〔安〕|〔点〕|〔打〕|〔盗〕|〔勝〕|〔敗〕"), (0x1F250, "得|可"),
  (0x2F800, "丽|丸|乁|𠄢|你|侮|侻|倂|偺|備|僧|像|㒞|𠘺|免|兔|兤|具|𠔜|㒹|內|再|𠕋|冗|冤|仌|冬|况|𩇟|凵|刃|㓟|刻|剆|割|剷|㔕|勇|勉|勤"),
  (0x2F828, "勺|包|匆|北|卉|卑|博|即|卽|卿|卿|卿|𠨬|灰|及|叟|𠭣|叫|叱|吆|咞|吸|呈|周|咢|哶|唐|啓|啣|善|善|喙|喫|喳|嗂|圖|嘆|圗|噑|噴"),
  (0x2F850, "切|壮|城|埴|堍|型|堲|報|墬|𡓤|売|壷|夆|多|夢|奢|𡚨|𡛪|姬|娛|娧|姘|婦|㛮|㛼|嬈|嬾|嬾|𡧈|寃|寘|寧|寳|𡬘|寿|将|当|尢|㞁|屠"),
  (0x2F878, "屮|峀|岍|𡷤|嵃|𡷦|嵮|嵫|嵼|巡|巢|㠯|巽|帨|帽|幩|㡢|𢆃|㡼|庰|庳|庶|廊|𪎒|廾|𢌱|𢌱|舁|弢|弢|㣇|𣊸|𦇚|形|彫|㣣|徚|忍|志|忹"),
  (0x2F8A0, "悁|㤺|㤜|悔|𢛔|惇|慈|慌|慎|慌|慺|憎|憲|憤|憯|懞|懲|懶|成|戛|扝|抱|拔|捐|𢬌|挽|拼|捨|掃|揤|𢯱|搢|揅|掩|㨮|摩|摾|撝|摷|㩬"),
  (0x2F8C8, "敏|敬|𣀊|旣|書|晉|㬙|暑|㬈|㫤|冒|冕|最|暜|肭|䏙|朗|望|朡|杞|杓|𣏃|㭉|柺|枅|桒|梅|𣑭|梎|栟|椔|㮝|楂|榣|槪|檨|𣚣|櫛|㰘|次"),
  (0x2F8F0, "𣢧|歔|㱎|歲|殟|殺|殻|𣪍|𡴋|𣫺|汎|𣲼|沿|泍|汧|洖|派|海|流|浩|浸|涅|𣴞|洴|港|湮|㴳|滋|滇|𣻑|淹|潮|𣽞|𣾎|濆|瀹|瀞|瀛|㶖|灊"),
  (0x2F918, "災|灷|炭|𠔥|煅|𤉣|熜|𤎫|爨|爵|牐|𤘈|犀|犕|𤜵|𤠔|獺|王|㺬|玥|㺸|㺸|瑇|瑜|瑱|璅|瓊|㼛|甤|𤰶|甾|𤲒|異|𢆟|瘐|𤾡|𤾸|𥁄|㿼|䀈"),
  (0x2F940, "直|𥃳|𥃲|𥄙|𥄳|眞|真|真|睊|䀹|瞋|䁆|䂖|𥐝|硎|碌|磌|䃣|𥘦|祖|𥚚|𥛅|福|秫|䄯|穀|穊|穏|𥥼|𥪧|𥪧|竮|䈂|𥮫|篆|築|䈧|𥲀|糒|䊠"),
  (0x2F968, "糨|糣|紀|𥾆|絣|䌁|緇|縂|繅|䌴|𦈨|𦉇|䍙|𦋙|罺|𦌾|羕|翺|者|𦓚|𦔣|聠|𦖨|聰|𣍟|䏕|育|脃|䐋|脾|媵|𦞧|𦞵|𣎓|𣎜|舁|舄|辞|䑫|芑"),
  (0x2F990, "芋|芝|劳|花|芳|芽|苦|𦬼|若|茝|荣|莭|茣|莽|菧|著|荓|菊|菌|菜|𦰶|𦵫|𦳕|䔫|蓱|蓳|蔖|𧏊|蕤|𦼬|䕝|䕡|𦾱|𧃒|䕫|虐|虜|虧|虩|蚩"),
  (0x2F9B8, "蚈|蜎|蛢|蝹|蜨|蝫|螆|䗗|蟡|蠁|䗹|衠|衣|𧙧|裗|裞|䘵|裺|㒻|𧢮|𧥦|䚾|䛇|誠|諭|變|豕|𧲨|貫|賁|贛|起|𧼯|𠠄|跋|趼|跰|𠣞|軔|輸"),
  (0x2F9E0, "𨗒|𨗭|邔|郱|鄑|𨜮|鄛|鈸|鋗|鋘|鉼|鏹|鐕|𨯺|開|䦕|閷|𨵷|䧦|雃|嶲|霣|𩅅|𩈚|䩮|䩶|韠|𩐊|䪲|𩒖|頋|頋|頩|𩖶|飢|䬳|餩|馧|駂|駾"),
  (0x2FA08, "䯎|𩬰|鬒|鱀|鳽|䳎|䳭|鵧|𪃎|䳸|𪄅|𪈎|𪊑|麻|䵖|黹|黾|鼅|鼏|鼖|鼻|𪘀")]

/-- What characters at a place and behind it stand for, one by one. -/
private def entriesFrom (place : Nat) : List (List Char) → List (Nat × List Char)
  | [] => []
  | cs :: rest => (place, cs) :: entriesFrom (place + 1) rest

/-- The characters that stand for others one by one, and what they stand for. -/
def replacements : List (Nat × List Char) :=
  replacementTexts.flatMap fun (place, texts) => entriesFrom place (parts '|' texts.toList)

/-- What a character stands for in a domain. -/
def mapChar? (c : Char) : Option (List Char) :=
  if refused.contains c then none
  else if dropped.contains c then some []
  else
    match Shift.target? shifts c with
    | some d => some [d]
    | none =>
      match replacements.find? fun (place, _) => place = c.toNat with
      | some (_, cs) => some cs
      | none => some [c]

/-- A domain as it is meant. -/
def mapped? (cs : List Char) : Option (List Char) := (cs.mapM mapChar?).map List.flatten

end BookingNotices.Mail.Domain
