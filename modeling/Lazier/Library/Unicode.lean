import Mathlib

/-!
# Lower case

The simple lower-case mapping of Unicode 15: outside ASCII, ranges of capitals
with their small letters in another range, and ranges in which capitals and
small letters take turns.
-/

namespace Lazier.Library.Unicode

/-- The first capital of a range, how many follow it, and the first small letter. -/
def lowerRanges : List (ℕ × ℕ × ℕ) :=
  [(192, 22, 224), (216, 6, 248), (304, 0, 105), (376, 0, 255), (385, 0, 595), (390, 0, 596),
    (393, 1, 598), (398, 0, 477), (399, 0, 601), (400, 0, 603), (403, 0, 608), (404, 0, 611),
    (406, 0, 617), (407, 0, 616), (412, 0, 623), (413, 0, 626), (415, 0, 629), (422, 0, 640),
    (425, 0, 643), (430, 0, 648), (433, 1, 650), (439, 0, 658), (452, 0, 454), (455, 0, 457),
    (458, 0, 460), (497, 0, 499), (502, 0, 405), (503, 0, 447), (544, 0, 414), (570, 0, 11365),
    (573, 0, 410), (574, 0, 11366), (579, 0, 384), (580, 0, 649), (581, 0, 652), (895, 0, 1011),
    (902, 0, 940), (904, 2, 941), (908, 0, 972), (910, 1, 973), (913, 16, 945), (931, 8, 963),
    (975, 0, 983), (1012, 0, 952), (1017, 0, 1010), (1021, 2, 891), (1024, 15, 1104),
    (1040, 31, 1072), (1216, 0, 1231), (1329, 37, 1377), (4256, 37, 11520), (4295, 0, 11559),
    (4301, 0, 11565), (5024, 79, 43888), (5104, 5, 5112), (7312, 42, 4304), (7357, 2, 4349),
    (7838, 0, 223), (7944, 7, 7936), (7960, 5, 7952), (7976, 7, 7968), (7992, 7, 7984),
    (8008, 5, 8000), (8025, 0, 8017), (8027, 0, 8019), (8029, 0, 8021), (8031, 0, 8023),
    (8040, 7, 8032), (8072, 7, 8064), (8088, 7, 8080), (8104, 7, 8096), (8120, 1, 8112),
    (8122, 1, 8048), (8124, 0, 8115), (8136, 3, 8050), (8140, 0, 8131), (8152, 1, 8144),
    (8154, 1, 8054), (8168, 1, 8160), (8170, 1, 8058), (8172, 0, 8165), (8184, 1, 8056),
    (8186, 1, 8060), (8188, 0, 8179), (8486, 0, 969), (8490, 0, 107), (8491, 0, 229),
    (8498, 0, 8526), (8544, 15, 8560), (9398, 25, 9424), (11264, 47, 11312), (11362, 0, 619),
    (11363, 0, 7549), (11364, 0, 637), (11373, 0, 593), (11374, 0, 625), (11375, 0, 592),
    (11376, 0, 594), (11390, 1, 575), (42877, 0, 7545), (42893, 0, 613), (42922, 0, 614),
    (42923, 0, 604), (42924, 0, 609), (42925, 0, 620), (42926, 0, 618), (42928, 0, 670),
    (42929, 0, 647), (42930, 0, 669), (42931, 0, 43859), (42948, 0, 42900), (42949, 0, 642),
    (42950, 0, 7566), (65313, 25, 65345), (66560, 39, 66600), (66736, 35, 66776),
    (66928, 10, 66967), (66940, 14, 66979), (66956, 6, 66995), (66964, 1, 67003),
    (68736, 50, 68800), (71840, 31, 71872), (93760, 31, 93792), (125184, 33, 125218)]

/-- The first capital of a range where each stands before its small letter, and
how many follow it. -/
def lowerPairs : List (ℕ × ℕ) :=
  [(256, 23), (306, 2), (313, 7), (330, 22), (377, 2), (386, 1), (391, 0), (395, 0), (401, 0),
    (408, 0), (416, 2), (423, 0), (428, 0), (431, 0), (435, 1), (440, 0), (444, 0), (453, 0),
    (456, 0), (459, 8), (478, 8), (498, 1), (504, 19), (546, 8), (571, 0), (577, 0), (582, 4),
    (880, 1), (886, 0), (984, 11), (1015, 0), (1018, 0), (1120, 16), (1162, 26), (1217, 6),
    (1232, 47), (7680, 74), (7840, 47), (8579, 0), (11360, 0), (11367, 2), (11378, 0), (11381, 0),
    (11392, 49), (11499, 1), (11506, 0), (42560, 22), (42624, 13), (42786, 6), (42802, 30),
    (42873, 1), (42878, 4), (42891, 0), (42896, 1), (42902, 9), (42932, 7), (42951, 1), (42960, 0),
    (42966, 1), (42997, 0)]

def toLower (char : Char) : Char :=
  let code := char.toNat
  if code < 0x80 then char.toLower
  else
    match lowerRanges.find? fun range => range.1 ≤ code && code ≤ range.1 + range.2.1 with
    | some (first, _, small) => .ofNat (small + (code - first))
    | none =>
      if lowerPairs.any fun (first, more) =>
          first ≤ code && code ≤ first + 2 * more && (code - first) % 2 == 0 then
        .ofNat (code + 1)
      else char

theorem toLower_ascii {char : Char} (hascii : char.toNat < 0x80) : toLower char = char.toLower :=
  if_pos hascii

end Lazier.Library.Unicode
