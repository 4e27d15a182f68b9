import EnumTables.Text.CodePoints

/-!
Signs that count, in Unicode 14, besides the decimal digits: signs that stand for one digit, such as
a superscript, and other numerals, such as a fraction or a Roman number.
-/

namespace EnumTables.Text.NumeralTable

def digitSigns : CodePoints := [
  ⟨178, 179, 1⟩, ⟨185, 185, 1⟩, ⟨4969, 4977, 1⟩, ⟨6618, 6618, 1⟩, ⟨8304, 8304, 1⟩,
  ⟨8308, 8313, 1⟩, ⟨8320, 8329, 1⟩, ⟨9312, 9320, 1⟩, ⟨9332, 9340, 1⟩, ⟨9352, 9360, 1⟩,
  ⟨9450, 9450, 1⟩, ⟨9461, 9469, 1⟩, ⟨9471, 9471, 1⟩, ⟨10102, 10110, 1⟩, ⟨10112, 10120, 1⟩,
  ⟨10122, 10130, 1⟩, ⟨68160, 68163, 1⟩, ⟨69216, 69224, 1⟩, ⟨69714, 69722, 1⟩,
  ⟨127232, 127242, 1⟩]

def numerals : CodePoints := [
  ⟨188, 190, 1⟩, ⟨2548, 2553, 1⟩, ⟨2930, 2935, 1⟩, ⟨3056, 3058, 1⟩, ⟨3192, 3198, 1⟩,
  ⟨3416, 3422, 1⟩, ⟨3440, 3448, 1⟩, ⟨3882, 3891, 1⟩, ⟨4978, 4988, 1⟩, ⟨5870, 5872, 1⟩,
  ⟨6128, 6137, 1⟩, ⟨8528, 8578, 1⟩, ⟨8581, 8585, 1⟩, ⟨9321, 9331, 1⟩, ⟨9341, 9351, 1⟩,
  ⟨9361, 9371, 1⟩, ⟨9451, 9460, 1⟩, ⟨9470, 9470, 1⟩, ⟨10111, 10111, 1⟩, ⟨10121, 10121, 1⟩,
  ⟨10131, 10131, 1⟩, ⟨11517, 11517, 1⟩, ⟨12295, 12295, 1⟩, ⟨12321, 12329, 1⟩, ⟨12344, 12346, 1⟩,
  ⟨12690, 12693, 1⟩, ⟨12832, 12841, 1⟩, ⟨12872, 12879, 1⟩, ⟨12881, 12895, 1⟩, ⟨12928, 12937, 1⟩,
  ⟨12977, 12991, 1⟩, ⟨13317, 13317, 1⟩, ⟨13443, 13443, 1⟩, ⟨14378, 14378, 1⟩, ⟨15181, 15181, 1⟩,
  ⟨19968, 19968, 1⟩, ⟨19971, 19971, 1⟩, ⟨19975, 19977, 2⟩, ⟨20061, 20061, 1⟩, ⟨20108, 20108, 1⟩,
  ⟨20116, 20118, 2⟩, ⟨20159, 20160, 1⟩, ⟨20191, 20191, 1⟩, ⟨20200, 20200, 1⟩, ⟨20237, 20237, 1⟩,
  ⟨20336, 20336, 1⟩, ⟨20740, 20740, 1⟩, ⟨20806, 20806, 1⟩, ⟨20841, 20845, 2⟩, ⟨21313, 21313, 1⟩,
  ⟨21315, 21317, 1⟩, ⟨21324, 21324, 1⟩, ⟨21441, 21444, 1⟩, ⟨22235, 22235, 1⟩, ⟨22769, 22769, 1⟩,
  ⟨22777, 22777, 1⟩, ⟨24186, 24186, 1⟩, ⟨24318, 24319, 1⟩, ⟨24332, 24334, 1⟩, ⟨24336, 24336, 1⟩,
  ⟨25342, 25342, 1⟩, ⟨25420, 25420, 1⟩, ⟨26578, 26578, 1⟩, ⟨28422, 28422, 1⟩, ⟨29590, 29590, 1⟩,
  ⟨30334, 30334, 1⟩, ⟨32902, 32902, 1⟩, ⟨33836, 33836, 1⟩, ⟨36014, 36014, 1⟩, ⟨36019, 36019, 1⟩,
  ⟨36144, 36144, 1⟩, ⟨38433, 38433, 1⟩, ⟨38470, 38470, 1⟩, ⟨38476, 38476, 1⟩, ⟨38520, 38520, 1⟩,
  ⟨38646, 38646, 1⟩, ⟨42726, 42735, 1⟩, ⟨43056, 43061, 1⟩, ⟨63851, 63851, 1⟩, ⟨63859, 63859, 1⟩,
  ⟨63864, 63864, 1⟩, ⟨63922, 63922, 1⟩, ⟨63953, 63955, 2⟩, ⟨63997, 63997, 1⟩, ⟨65799, 65843, 1⟩,
  ⟨65856, 65912, 1⟩, ⟨65930, 65931, 1⟩, ⟨66273, 66299, 1⟩, ⟨66336, 66339, 1⟩, ⟨66369, 66369, 1⟩,
  ⟨66378, 66378, 1⟩, ⟨66513, 66517, 1⟩, ⟨67672, 67679, 1⟩, ⟨67705, 67711, 1⟩, ⟨67751, 67759, 1⟩,
  ⟨67835, 67839, 1⟩, ⟨67862, 67867, 1⟩, ⟨68028, 68029, 1⟩, ⟨68032, 68047, 1⟩, ⟨68050, 68095, 1⟩,
  ⟨68164, 68168, 1⟩, ⟨68221, 68222, 1⟩, ⟨68253, 68255, 1⟩, ⟨68331, 68335, 1⟩, ⟨68440, 68447, 1⟩,
  ⟨68472, 68479, 1⟩, ⟨68521, 68527, 1⟩, ⟨68858, 68863, 1⟩, ⟨69225, 69246, 1⟩, ⟨69405, 69414, 1⟩,
  ⟨69457, 69460, 1⟩, ⟨69573, 69579, 1⟩, ⟨69723, 69733, 1⟩, ⟨70113, 70132, 1⟩, ⟨71482, 71483, 1⟩,
  ⟨71914, 71922, 1⟩, ⟨72794, 72812, 1⟩, ⟨73664, 73684, 1⟩, ⟨74752, 74862, 1⟩, ⟨93019, 93025, 1⟩,
  ⟨93824, 93846, 1⟩, ⟨119520, 119539, 1⟩, ⟨119648, 119672, 1⟩, ⟨125127, 125135, 1⟩,
  ⟨126065, 126123, 1⟩, ⟨126125, 126127, 1⟩, ⟨126129, 126132, 1⟩, ⟨126209, 126253, 1⟩,
  ⟨126255, 126269, 1⟩, ⟨127243, 127244, 1⟩, ⟨131073, 131073, 1⟩, ⟨131172, 131172, 1⟩,
  ⟨131298, 131298, 1⟩, ⟨131361, 131361, 1⟩, ⟨133418, 133418, 1⟩, ⟨133507, 133507, 1⟩,
  ⟨133516, 133516, 1⟩, ⟨133532, 133532, 1⟩, ⟨133866, 133866, 1⟩, ⟨133885, 133885, 1⟩,
  ⟨133913, 133913, 1⟩, ⟨140176, 140176, 1⟩, ⟨141720, 141720, 1⟩, ⟨146203, 146203, 1⟩,
  ⟨156269, 156269, 1⟩, ⟨194704, 194704, 1⟩]

end EnumTables.Text.NumeralTable
