import EnumTables.Text.CodePoints

/-!
Forms of characters in Unicode 14: the compatible characters that a character stands for, the pairs
of characters that compose to one, and the combining classes of the marks.
-/

namespace EnumTables.Text.FormTable

def single : Shifts := [
  ⟨⟨170, 170, 1⟩, -73⟩, ⟨⟨181, 181, 1⟩, 775⟩, ⟨⟨186, 186, 1⟩, -75⟩, ⟨⟨383, 383, 1⟩, -268⟩,
  ⟨⟨688, 688, 1⟩, -584⟩, ⟨⟨689, 689, 1⟩, -75⟩, ⟨⟨690, 690, 1⟩, -584⟩, ⟨⟨691, 691, 1⟩, -577⟩,
  ⟨⟨692, 692, 1⟩, -59⟩, ⟨⟨693, 693, 1⟩, -58⟩, ⟨⟨694, 694, 1⟩, -53⟩, ⟨⟨695, 695, 1⟩, -576⟩,
  ⟨⟨696, 696, 1⟩, -575⟩, ⟨⟨736, 736, 1⟩, -125⟩, ⟨⟨737, 737, 1⟩, -629⟩, ⟨⟨738, 738, 1⟩, -623⟩,
  ⟨⟨739, 739, 1⟩, -619⟩, ⟨⟨740, 740, 1⟩, -79⟩, ⟨⟨832, 833, 1⟩, -64⟩, ⟨⟨835, 835, 1⟩, -48⟩,
  ⟨⟨884, 884, 1⟩, -187⟩, ⟨⟨903, 903, 1⟩, -720⟩, ⟨⟨976, 976, 1⟩, -30⟩, ⟨⟨977, 977, 1⟩, -25⟩,
  ⟨⟨978, 978, 1⟩, -45⟩, ⟨⟨979, 979, 1⟩, -69⟩, ⟨⟨980, 980, 1⟩, -41⟩, ⟨⟨981, 981, 1⟩, -15⟩,
  ⟨⟨982, 982, 1⟩, -22⟩, ⟨⟨1008, 1008, 1⟩, -54⟩, ⟨⟨1009, 1010, 1⟩, -48⟩, ⟨⟨1012, 1012, 1⟩, -92⟩,
  ⟨⟨1013, 1013, 1⟩, -64⟩, ⟨⟨1017, 1017, 1⟩, -86⟩, ⟨⟨4348, 4348, 1⟩, -32⟩,
  ⟨⟨7468, 7468, 1⟩, -7403⟩, ⟨⟨7469, 7469, 1⟩, -7271⟩, ⟨⟨7470, 7472, 2⟩, -7404⟩,
  ⟨⟨7473, 7473, 1⟩, -7404⟩, ⟨⟨7474, 7474, 1⟩, -7076⟩, ⟨⟨7475, 7482, 1⟩, -7404⟩,
  ⟨⟨7484, 7484, 1⟩, -7405⟩, ⟨⟨7485, 7485, 1⟩, -6939⟩, ⟨⟨7486, 7486, 1⟩, -7406⟩,
  ⟨⟨7487, 7487, 1⟩, -7405⟩, ⟨⟨7488, 7489, 1⟩, -7404⟩, ⟨⟨7490, 7490, 1⟩, -7403⟩,
  ⟨⟨7491, 7491, 1⟩, -7394⟩, ⟨⟨7492, 7493, 1⟩, -6900⟩, ⟨⟨7494, 7494, 1⟩, -68⟩,
  ⟨⟨7495, 7495, 1⟩, -7397⟩, ⟨⟨7496, 7497, 1⟩, -7396⟩, ⟨⟨7498, 7498, 1⟩, -6897⟩,
  ⟨⟨7499, 7500, 1⟩, -6896⟩, ⟨⟨7501, 7501, 1⟩, -7398⟩, ⟨⟨7503, 7503, 1⟩, -7396⟩,
  ⟨⟨7504, 7504, 1⟩, -7395⟩, ⟨⟨7505, 7505, 1⟩, -7174⟩, ⟨⟨7506, 7506, 1⟩, -7395⟩,
  ⟨⟨7507, 7507, 1⟩, -6911⟩, ⟨⟨7508, 7509, 1⟩, -62⟩, ⟨⟨7510, 7510, 1⟩, -7398⟩,
  ⟨⟨7511, 7512, 1⟩, -7395⟩, ⟨⟨7513, 7513, 1⟩, -60⟩, ⟨⟨7514, 7514, 1⟩, -6891⟩,
  ⟨⟨7515, 7515, 1⟩, -7397⟩, ⟨⟨7516, 7516, 1⟩, -55⟩, ⟨⟨7517, 7519, 1⟩, -6571⟩,
  ⟨⟨7520, 7521, 1⟩, -6554⟩, ⟨⟨7522, 7522, 1⟩, -7417⟩, ⟨⟨7523, 7523, 1⟩, -7409⟩,
  ⟨⟨7524, 7525, 1⟩, -7407⟩, ⟨⟨7526, 7527, 1⟩, -6580⟩, ⟨⟨7528, 7528, 1⟩, -6567⟩,
  ⟨⟨7529, 7530, 1⟩, -6563⟩, ⟨⟨7544, 7544, 1⟩, -6459⟩, ⟨⟨7579, 7579, 1⟩, -6985⟩,
  ⟨⟨7580, 7580, 1⟩, -7481⟩, ⟨⟨7581, 7581, 1⟩, -6984⟩, ⟨⟨7582, 7582, 1⟩, -7342⟩,
  ⟨⟨7583, 7583, 1⟩, -6979⟩, ⟨⟨7584, 7584, 1⟩, -7482⟩, ⟨⟨7585, 7585, 1⟩, -6978⟩,
  ⟨⟨7586, 7586, 1⟩, -6977⟩, ⟨⟨7587, 7587, 1⟩, -6974⟩, ⟨⟨7588, 7590, 1⟩, -6972⟩,
  ⟨⟨7591, 7591, 1⟩, -44⟩, ⟨⟨7592, 7592, 1⟩, -6923⟩, ⟨⟨7593, 7593, 1⟩, -6972⟩,
  ⟨⟨7594, 7594, 1⟩, -37⟩, ⟨⟨7595, 7595, 1⟩, -6924⟩, ⟨⟨7596, 7596, 1⟩, -6971⟩,
  ⟨⟨7597, 7597, 1⟩, -6973⟩, ⟨⟨7598, 7601, 1⟩, -6972⟩, ⟨⟨7602, 7602, 1⟩, -6970⟩,
  ⟨⟨7603, 7604, 1⟩, -6961⟩, ⟨⟨7605, 7605, 1⟩, -7178⟩, ⟨⟨7606, 7607, 1⟩, -6957⟩,
  ⟨⟨7608, 7608, 1⟩, -156⟩, ⟨⟨7609, 7610, 1⟩, -6958⟩, ⟨⟨7611, 7611, 1⟩, -7489⟩,
  ⟨⟨7612, 7614, 1⟩, -6956⟩, ⟨⟨7615, 7615, 1⟩, -6663⟩, ⟨⟨7835, 7835, 1⟩, -58⟩,
  ⟨⟨8049, 8049, 1⟩, -7109⟩, ⟨⟨8051, 8051, 1⟩, -7110⟩, ⟨⟨8053, 8053, 1⟩, -7111⟩,
  ⟨⟨8055, 8055, 1⟩, -7112⟩, ⟨⟨8057, 8057, 1⟩, -7085⟩, ⟨⟨8059, 8059, 1⟩, -7086⟩,
  ⟨⟨8061, 8061, 1⟩, -7087⟩, ⟨⟨8123, 8123, 1⟩, -7221⟩, ⟨⟨8126, 8126, 1⟩, -7173⟩,
  ⟨⟨8137, 8137, 1⟩, -7233⟩, ⟨⟨8139, 8139, 1⟩, -7234⟩, ⟨⟨8147, 8147, 1⟩, -7235⟩,
  ⟨⟨8155, 8155, 1⟩, -7249⟩, ⟨⟨8163, 8163, 1⟩, -7219⟩, ⟨⟨8171, 8171, 1⟩, -7261⟩,
  ⟨⟨8185, 8185, 1⟩, -7277⟩, ⟨⟨8187, 8187, 1⟩, -7276⟩, ⟨⟨8305, 8305, 1⟩, -8200⟩,
  ⟨⟨8319, 8319, 1⟩, -8209⟩, ⟨⟨8336, 8336, 1⟩, -8239⟩, ⟨⟨8337, 8337, 1⟩, -8236⟩,
  ⟨⟨8338, 8338, 1⟩, -8227⟩, ⟨⟨8339, 8339, 1⟩, -8219⟩, ⟨⟨8340, 8340, 1⟩, -7739⟩,
  ⟨⟨8341, 8341, 1⟩, -8237⟩, ⟨⟨8342, 8345, 1⟩, -8235⟩, ⟨⟨8346, 8346, 1⟩, -8234⟩,
  ⟨⟨8347, 8348, 1⟩, -8232⟩, ⟨⟨8450, 8450, 1⟩, -8383⟩, ⟨⟨8455, 8455, 1⟩, -8055⟩,
  ⟨⟨8458, 8458, 1⟩, -8355⟩, ⟨⟨8459, 8459, 1⟩, -8387⟩, ⟨⟨8460, 8460, 1⟩, -8388⟩,
  ⟨⟨8461, 8461, 1⟩, -8389⟩, ⟨⟨8462, 8462, 1⟩, -8358⟩, ⟨⟨8463, 8463, 1⟩, -8168⟩,
  ⟨⟨8464, 8464, 1⟩, -8391⟩, ⟨⟨8465, 8465, 1⟩, -8392⟩, ⟨⟨8466, 8466, 1⟩, -8390⟩,
  ⟨⟨8467, 8467, 1⟩, -8359⟩, ⟨⟨8469, 8469, 1⟩, -8391⟩, ⟨⟨8473, 8475, 1⟩, -8393⟩,
  ⟨⟨8476, 8476, 1⟩, -8394⟩, ⟨⟨8477, 8477, 1⟩, -8395⟩, ⟨⟨8484, 8484, 1⟩, -8394⟩,
  ⟨⟨8486, 8486, 1⟩, -7549⟩, ⟨⟨8488, 8488, 1⟩, -8398⟩, ⟨⟨8490, 8490, 1⟩, -8415⟩,
  ⟨⟨8491, 8491, 1⟩, -8294⟩, ⟨⟨8492, 8493, 1⟩, -8426⟩, ⟨⟨8495, 8495, 1⟩, -8394⟩,
  ⟨⟨8496, 8497, 1⟩, -8427⟩, ⟨⟨8499, 8499, 1⟩, -8422⟩, ⟨⟨8500, 8500, 1⟩, -8389⟩,
  ⟨⟨8501, 8504, 1⟩, -7013⟩, ⟨⟨8505, 8505, 1⟩, -8400⟩, ⟨⟨8508, 8508, 1⟩, -7548⟩,
  ⟨⟨8509, 8509, 1⟩, -7562⟩, ⟨⟨8510, 8510, 1⟩, -7595⟩, ⟨⟨8511, 8511, 1⟩, -7583⟩,
  ⟨⟨8517, 8517, 1⟩, -8449⟩, ⟨⟨8518, 8519, 1⟩, -8418⟩, ⟨⟨8520, 8521, 1⟩, -8415⟩,
  ⟨⟨8544, 8544, 1⟩, -8471⟩, ⟨⟨8548, 8548, 1⟩, -8462⟩, ⟨⟨8553, 8553, 1⟩, -8465⟩,
  ⟨⟨8556, 8556, 1⟩, -8480⟩, ⟨⟨8557, 8558, 1⟩, -8490⟩, ⟨⟨8559, 8559, 1⟩, -8482⟩,
  ⟨⟨8560, 8560, 1⟩, -8455⟩, ⟨⟨8564, 8564, 1⟩, -8446⟩, ⟨⟨8569, 8569, 1⟩, -8449⟩,
  ⟨⟨8572, 8572, 1⟩, -8464⟩, ⟨⟨8573, 8574, 1⟩, -8474⟩, ⟨⟨8575, 8575, 1⟩, -8466⟩,
  ⟨⟨11388, 11388, 1⟩, -11282⟩, ⟨⟨11389, 11389, 1⟩, -11303⟩, ⟨⟨11631, 11631, 1⟩, -14⟩,
  ⟨⟨12344, 12344, 1⟩, 8969⟩, ⟨⟨12345, 12346, 1⟩, 8971⟩, ⟨⟨12593, 12594, 1⟩, -8241⟩,
  ⟨⟨12595, 12595, 1⟩, -8073⟩, ⟨⟨12596, 12596, 1⟩, -8242⟩, ⟨⟨12597, 12598, 1⟩, -8073⟩,
  ⟨⟨12599, 12601, 1⟩, -8244⟩, ⟨⟨12602, 12607, 1⟩, -8074⟩, ⟨⟨12608, 12608, 1⟩, -8230⟩,
  ⟨⟨12609, 12611, 1⟩, -8251⟩, ⟨⟨12612, 12612, 1⟩, -8227⟩, ⟨⟨12613, 12622, 1⟩, -8252⟩,
  ⟨⟨12623, 12643, 1⟩, -8174⟩, ⟨⟨12644, 12644, 1⟩, -8196⟩, ⟨⟨12645, 12646, 1⟩, -8273⟩,
  ⟨⟨12647, 12648, 1⟩, -8096⟩, ⟨⟨12649, 12649, 1⟩, -8093⟩, ⟨⟨12650, 12650, 1⟩, -8092⟩,
  ⟨⟨12651, 12651, 1⟩, -8088⟩, ⟨⟨12652, 12652, 1⟩, -8085⟩, ⟨⟨12653, 12653, 1⟩, -8084⟩,
  ⟨⟨12654, 12654, 1⟩, -8274⟩, ⟨⟨12655, 12655, 1⟩, -8082⟩, ⟨⟨12656, 12656, 1⟩, -8081⟩,
  ⟨⟨12657, 12658, 1⟩, -8276⟩, ⟨⟨12659, 12659, 1⟩, -8275⟩, ⟨⟨12660, 12661, 1⟩, -8274⟩,
  ⟨⟨12662, 12662, 1⟩, -8271⟩, ⟨⟨12663, 12663, 1⟩, -8270⟩, ⟨⟨12664, 12668, 1⟩, -8269⟩,
  ⟨⟨12669, 12669, 1⟩, -8267⟩, ⟨⟨12670, 12670, 1⟩, -8264⟩, ⟨⟨12671, 12671, 1⟩, -8255⟩,
  ⟨⟨12672, 12672, 1⟩, -8249⟩, ⟨⟨12673, 12673, 1⟩, -8245⟩, ⟨⟨12674, 12675, 1⟩, -8081⟩,
  ⟨⟨12676, 12678, 1⟩, -8237⟩, ⟨⟨12679, 12680, 1⟩, -8195⟩, ⟨⟨12681, 12681, 1⟩, -8193⟩,
  ⟨⟨12682, 12683, 1⟩, -8185⟩, ⟨⟨12684, 12684, 1⟩, -8184⟩, ⟨⟨12685, 12685, 1⟩, -8175⟩,
  ⟨⟨12686, 12686, 1⟩, -8173⟩, ⟨⟨42652, 42652, 1⟩, -41554⟩, ⟨⟨42653, 42653, 1⟩, -41553⟩,
  ⟨⟨42864, 42864, 1⟩, -1⟩, ⟨⟨42994, 42994, 1⟩, -42927⟩, ⟨⟨42995, 42995, 1⟩, -42925⟩,
  ⟨⟨42996, 42996, 1⟩, -42915⟩, ⟨⟨43000, 43000, 1⟩, -42706⟩, ⟨⟨43001, 43001, 1⟩, -42662⟩,
  ⟨⟨43868, 43868, 1⟩, -1077⟩, ⟨⟨43869, 43869, 1⟩, -38⟩, ⟨⟨43870, 43870, 1⟩, -43251⟩,
  ⟨⟨43871, 43871, 1⟩, -13⟩, ⟨⟨43881, 43881, 1⟩, -43228⟩, ⟨⟨64288, 64288, 1⟩, -62782⟩,
  ⟨⟨64289, 64289, 1⟩, -62801⟩, ⟨⟨64290, 64291, 1⟩, -62799⟩, ⟨⟨64292, 64294, 1⟩, -62793⟩,
  ⟨⟨64295, 64295, 1⟩, -62783⟩, ⟨⟨64296, 64296, 1⟩, -62782⟩, ⟨⟨65296, 65305, 1⟩, -65248⟩,
  ⟨⟨65313, 65338, 1⟩, -65248⟩, ⟨⟨65343, 65345, 2⟩, -65248⟩, ⟨⟨65346, 65370, 1⟩, -65248⟩,
  ⟨⟨65382, 65382, 1⟩, -52852⟩, ⟨⟨65383, 65383, 1⟩, -52934⟩, ⟨⟨65384, 65384, 1⟩, -52933⟩,
  ⟨⟨65385, 65385, 1⟩, -52932⟩, ⟨⟨65386, 65386, 1⟩, -52931⟩, ⟨⟨65387, 65387, 1⟩, -52930⟩,
  ⟨⟨65388, 65388, 1⟩, -52873⟩, ⟨⟨65389, 65389, 1⟩, -52872⟩, ⟨⟨65390, 65390, 1⟩, -52871⟩,
  ⟨⟨65391, 65391, 1⟩, -52908⟩, ⟨⟨65392, 65392, 1⟩, -52852⟩, ⟨⟨65393, 65393, 1⟩, -52943⟩,
  ⟨⟨65394, 65394, 1⟩, -52942⟩, ⟨⟨65395, 65395, 1⟩, -52941⟩, ⟨⟨65396, 65396, 1⟩, -52940⟩,
  ⟨⟨65397, 65398, 1⟩, -52939⟩, ⟨⟨65399, 65399, 1⟩, -52938⟩, ⟨⟨65400, 65400, 1⟩, -52937⟩,
  ⟨⟨65401, 65401, 1⟩, -52936⟩, ⟨⟨65402, 65402, 1⟩, -52935⟩, ⟨⟨65403, 65403, 1⟩, -52934⟩,
  ⟨⟨65404, 65404, 1⟩, -52933⟩, ⟨⟨65405, 65405, 1⟩, -52932⟩, ⟨⟨65406, 65406, 1⟩, -52931⟩,
  ⟨⟨65407, 65407, 1⟩, -52930⟩, ⟨⟨65408, 65408, 1⟩, -52929⟩, ⟨⟨65409, 65409, 1⟩, -52928⟩,
  ⟨⟨65410, 65410, 1⟩, -52926⟩, ⟨⟨65411, 65411, 1⟩, -52925⟩, ⟨⟨65412, 65412, 1⟩, -52924⟩,
  ⟨⟨65413, 65418, 1⟩, -52923⟩, ⟨⟨65419, 65419, 1⟩, -52921⟩, ⟨⟨65420, 65420, 1⟩, -52919⟩,
  ⟨⟨65421, 65421, 1⟩, -52917⟩, ⟨⟨65422, 65422, 1⟩, -52915⟩, ⟨⟨65423, 65427, 1⟩, -52913⟩,
  ⟨⟨65428, 65428, 1⟩, -52912⟩, ⟨⟨65429, 65429, 1⟩, -52911⟩, ⟨⟨65430, 65435, 1⟩, -52910⟩,
  ⟨⟨65436, 65436, 1⟩, -52909⟩, ⟨⟨65437, 65437, 1⟩, -52906⟩, ⟨⟨65438, 65439, 1⟩, -52997⟩,
  ⟨⟨65440, 65440, 1⟩, -60992⟩, ⟨⟨65441, 65442, 1⟩, -61089⟩, ⟨⟨65443, 65443, 1⟩, -60921⟩,
  ⟨⟨65444, 65444, 1⟩, -61090⟩, ⟨⟨65445, 65446, 1⟩, -60921⟩, ⟨⟨65447, 65449, 1⟩, -61092⟩,
  ⟨⟨65450, 65455, 1⟩, -60922⟩, ⟨⟨65456, 65456, 1⟩, -61078⟩, ⟨⟨65457, 65459, 1⟩, -61099⟩,
  ⟨⟨65460, 65460, 1⟩, -61075⟩, ⟨⟨65461, 65470, 1⟩, -61100⟩, ⟨⟨65474, 65479, 1⟩, -61025⟩,
  ⟨⟨65482, 65487, 1⟩, -61027⟩, ⟨⟨65490, 65495, 1⟩, -61029⟩, ⟨⟨65498, 65500, 1⟩, -61031⟩,
  ⟨⟨67457, 67458, 1⟩, -66737⟩, ⟨⟨67459, 67459, 1⟩, -67229⟩, ⟨⟨67460, 67460, 1⟩, -66795⟩,
  ⟨⟨67461, 67461, 1⟩, -66866⟩, ⟨⟨67463, 67463, 1⟩, -66788⟩, ⟨⟨67464, 67464, 1⟩, -23586⟩,
  ⟨⟨67465, 67465, 1⟩, -66788⟩, ⟨⟨67466, 67466, 1⟩, -66790⟩, ⟨⟨67467, 67468, 1⟩, -66869⟩,
  ⟨⟨67469, 67469, 1⟩, -59900⟩, ⟨⟨67470, 67470, 1⟩, -66870⟩, ⟨⟨67471, 67471, 1⟩, -66865⟩,
  ⟨⟨67472, 67472, 1⟩, -66791⟩, ⟨⟨67473, 67473, 1⟩, -66861⟩, ⟨⟨67474, 67474, 1⟩, -66864⟩,
  ⟨⟨67475, 67475, 1⟩, -66867⟩, ⟨⟨67476, 67476, 1⟩, -66809⟩, ⟨⟨67477, 67477, 1⟩, -67182⟩,
  ⟨⟨67478, 67478, 1⟩, -66810⟩, ⟨⟨67479, 67479, 1⟩, -66864⟩, ⟨⟨67480, 67480, 1⟩, -66836⟩,
  ⟨⟨67481, 67482, 1⟩, -66799⟩, ⟨⟨67483, 67483, 1⟩, -66863⟩, ⟨⟨67484, 67484, 1⟩, 55144⟩,
  ⟨⟨67485, 67485, 1⟩, -24591⟩, ⟨⟨67486, 67486, 1⟩, -66864⟩, ⟨⟨67487, 67487, 1⟩, 55142⟩,
  ⟨⟨67488, 67488, 1⟩, -66834⟩, ⟨⟨67489, 67489, 1⟩, 55141⟩, ⟨⟨67490, 67490, 1⟩, -67242⟩,
  ⟨⟨67491, 67492, 1⟩, -66861⟩, ⟨⟨67493, 67493, 1⟩, -67380⟩, ⟨⟨67494, 67494, 1⟩, -66860⟩,
  ⟨⟨67495, 67495, 1⟩, 55137⟩, ⟨⟨67496, 67497, 1⟩, -66859⟩, ⟨⟨67498, 67498, 1⟩, -66858⟩,
  ⟨⟨67499, 67499, 1⟩, -66819⟩, ⟨⟨67500, 67500, 1⟩, -66822⟩, ⟨⟨67501, 67501, 1⟩, -23622⟩,
  ⟨⟨67502, 67502, 1⟩, -66823⟩, ⟨⟨67503, 67503, 1⟩, -66855⟩, ⟨⟨67504, 67504, 1⟩, -56127⟩,
  ⟨⟨67506, 67506, 1⟩, -66851⟩, ⟨⟨67507, 67508, 1⟩, -66834⟩, ⟨⟨67509, 67509, 1⟩, -66845⟩,
  ⟨⟨67510, 67512, 1⟩, -67062⟩, ⟨⟨67513, 67513, 1⟩, 55121⟩, ⟨⟨67514, 67514, 1⟩, 55140⟩,
  ⟨⟨119808, 119833, 1⟩, -119743⟩, ⟨⟨119834, 119859, 1⟩, -119737⟩, ⟨⟨119860, 119885, 1⟩, -119795⟩,
  ⟨⟨119886, 119892, 1⟩, -119789⟩, ⟨⟨119894, 119911, 1⟩, -119789⟩, ⟨⟨119912, 119937, 1⟩, -119847⟩,
  ⟨⟨119938, 119963, 1⟩, -119841⟩, ⟨⟨119964, 119966, 2⟩, -119899⟩, ⟨⟨119967, 119967, 1⟩, -119899⟩,
  ⟨⟨119970, 119970, 1⟩, -119899⟩, ⟨⟨119973, 119974, 1⟩, -119899⟩, ⟨⟨119977, 119980, 1⟩, -119899⟩,
  ⟨⟨119982, 119989, 1⟩, -119899⟩, ⟨⟨119990, 119993, 1⟩, -119893⟩, ⟨⟨119995, 119997, 2⟩, -119893⟩,
  ⟨⟨119998, 120003, 1⟩, -119893⟩, ⟨⟨120005, 120015, 1⟩, -119893⟩, ⟨⟨120016, 120041, 1⟩, -119951⟩,
  ⟨⟨120042, 120067, 1⟩, -119945⟩, ⟨⟨120068, 120069, 1⟩, -120003⟩, ⟨⟨120071, 120074, 1⟩, -120003⟩,
  ⟨⟨120077, 120084, 1⟩, -120003⟩, ⟨⟨120086, 120092, 1⟩, -120003⟩, ⟨⟨120094, 120119, 1⟩, -119997⟩,
  ⟨⟨120120, 120121, 1⟩, -120055⟩, ⟨⟨120123, 120126, 1⟩, -120055⟩, ⟨⟨120128, 120132, 1⟩, -120055⟩,
  ⟨⟨120134, 120134, 1⟩, -120055⟩, ⟨⟨120138, 120144, 1⟩, -120055⟩, ⟨⟨120146, 120171, 1⟩, -120049⟩,
  ⟨⟨120172, 120197, 1⟩, -120107⟩, ⟨⟨120198, 120223, 1⟩, -120101⟩, ⟨⟨120224, 120249, 1⟩, -120159⟩,
  ⟨⟨120250, 120275, 1⟩, -120153⟩, ⟨⟨120276, 120301, 1⟩, -120211⟩, ⟨⟨120302, 120327, 1⟩, -120205⟩,
  ⟨⟨120328, 120353, 1⟩, -120263⟩, ⟨⟨120354, 120379, 1⟩, -120257⟩, ⟨⟨120380, 120405, 1⟩, -120315⟩,
  ⟨⟨120406, 120431, 1⟩, -120309⟩, ⟨⟨120432, 120457, 1⟩, -120367⟩, ⟨⟨120458, 120483, 1⟩, -120361⟩,
  ⟨⟨120484, 120484, 1⟩, -120179⟩, ⟨⟨120485, 120485, 1⟩, -119918⟩, ⟨⟨120488, 120504, 1⟩, -119575⟩,
  ⟨⟨120505, 120505, 1⟩, -119585⟩, ⟨⟨120506, 120512, 1⟩, -119575⟩, ⟨⟨120514, 120538, 1⟩, -119569⟩,
  ⟨⟨120540, 120540, 1⟩, -119591⟩, ⟨⟨120541, 120541, 1⟩, -119589⟩, ⟨⟨120542, 120542, 1⟩, -119588⟩,
  ⟨⟨120543, 120543, 1⟩, -119577⟩, ⟨⟨120544, 120544, 1⟩, -119583⟩, ⟨⟨120545, 120545, 1⟩, -119585⟩,
  ⟨⟨120546, 120562, 1⟩, -119633⟩, ⟨⟨120563, 120563, 1⟩, -119643⟩, ⟨⟨120564, 120570, 1⟩, -119633⟩,
  ⟨⟨120572, 120596, 1⟩, -119627⟩, ⟨⟨120598, 120598, 1⟩, -119649⟩, ⟨⟨120599, 120599, 1⟩, -119647⟩,
  ⟨⟨120600, 120600, 1⟩, -119646⟩, ⟨⟨120601, 120601, 1⟩, -119635⟩, ⟨⟨120602, 120602, 1⟩, -119641⟩,
  ⟨⟨120603, 120603, 1⟩, -119643⟩, ⟨⟨120604, 120620, 1⟩, -119691⟩, ⟨⟨120621, 120621, 1⟩, -119701⟩,
  ⟨⟨120622, 120628, 1⟩, -119691⟩, ⟨⟨120630, 120654, 1⟩, -119685⟩, ⟨⟨120656, 120656, 1⟩, -119707⟩,
  ⟨⟨120657, 120657, 1⟩, -119705⟩, ⟨⟨120658, 120658, 1⟩, -119704⟩, ⟨⟨120659, 120659, 1⟩, -119693⟩,
  ⟨⟨120660, 120660, 1⟩, -119699⟩, ⟨⟨120661, 120661, 1⟩, -119701⟩, ⟨⟨120662, 120678, 1⟩, -119749⟩,
  ⟨⟨120679, 120679, 1⟩, -119759⟩, ⟨⟨120680, 120686, 1⟩, -119749⟩, ⟨⟨120688, 120712, 1⟩, -119743⟩,
  ⟨⟨120714, 120714, 1⟩, -119765⟩, ⟨⟨120715, 120715, 1⟩, -119763⟩, ⟨⟨120716, 120716, 1⟩, -119762⟩,
  ⟨⟨120717, 120717, 1⟩, -119751⟩, ⟨⟨120718, 120718, 1⟩, -119757⟩, ⟨⟨120719, 120719, 1⟩, -119759⟩,
  ⟨⟨120720, 120736, 1⟩, -119807⟩, ⟨⟨120737, 120737, 1⟩, -119817⟩, ⟨⟨120738, 120744, 1⟩, -119807⟩,
  ⟨⟨120746, 120770, 1⟩, -119801⟩, ⟨⟨120772, 120772, 1⟩, -119823⟩, ⟨⟨120773, 120773, 1⟩, -119821⟩,
  ⟨⟨120774, 120774, 1⟩, -119820⟩, ⟨⟨120775, 120775, 1⟩, -119809⟩, ⟨⟨120776, 120776, 1⟩, -119815⟩,
  ⟨⟨120777, 120777, 1⟩, -119817⟩, ⟨⟨120778, 120779, 1⟩, -119790⟩, ⟨⟨120782, 120791, 1⟩, -120734⟩,
  ⟨⟨120792, 120801, 1⟩, -120744⟩, ⟨⟨120802, 120811, 1⟩, -120754⟩, ⟨⟨120812, 120821, 1⟩, -120764⟩,
  ⟨⟨120822, 120831, 1⟩, -120774⟩, ⟨⟨126464, 126465, 1⟩, -124889⟩, ⟨⟨126466, 126466, 1⟩, -124886⟩,
  ⟨⟨126467, 126467, 1⟩, -124884⟩, ⟨⟨126469, 126469, 1⟩, -124861⟩, ⟨⟨126470, 126470, 1⟩, -124884⟩,
  ⟨⟨126471, 126471, 1⟩, -124890⟩, ⟨⟨126472, 126472, 1⟩, -124881⟩, ⟨⟨126473, 126473, 1⟩, -124863⟩,
  ⟨⟨126474, 126477, 1⟩, -124871⟩, ⟨⟨126478, 126478, 1⟩, -124891⟩, ⟨⟨126479, 126479, 1⟩, -124886⟩,
  ⟨⟨126480, 126480, 1⟩, -124879⟩, ⟨⟨126481, 126481, 1⟩, -124892⟩, ⟨⟨126482, 126482, 1⟩, -124880⟩,
  ⟨⟨126483, 126483, 1⟩, -124898⟩, ⟨⟨126484, 126484, 1⟩, -124896⟩, ⟨⟨126485, 126486, 1⟩, -124907⟩,
  ⟨⟨126487, 126487, 1⟩, -124905⟩, ⟨⟨126488, 126488, 1⟩, -124904⟩, ⟨⟨126489, 126489, 1⟩, -124899⟩,
  ⟨⟨126490, 126490, 1⟩, -124898⟩, ⟨⟨126491, 126491, 1⟩, -124897⟩, ⟨⟨126492, 126492, 1⟩, -124846⟩,
  ⟨⟨126493, 126493, 1⟩, -124771⟩, ⟨⟨126494, 126494, 1⟩, -124797⟩, ⟨⟨126495, 126495, 1⟩, -124848⟩,
  ⟨⟨126497, 126497, 1⟩, -124921⟩, ⟨⟨126498, 126498, 1⟩, -124918⟩, ⟨⟨126500, 126500, 1⟩, -124893⟩,
  ⟨⟨126503, 126503, 1⟩, -124922⟩, ⟨⟨126505, 126505, 1⟩, -124895⟩, ⟨⟨126506, 126509, 1⟩, -124903⟩,
  ⟨⟨126510, 126510, 1⟩, -124923⟩, ⟨⟨126511, 126511, 1⟩, -124918⟩, ⟨⟨126512, 126512, 1⟩, -124911⟩,
  ⟨⟨126513, 126513, 1⟩, -124924⟩, ⟨⟨126514, 126514, 1⟩, -124912⟩, ⟨⟨126516, 126516, 1⟩, -124928⟩,
  ⟨⟨126517, 126518, 1⟩, -124939⟩, ⟨⟨126519, 126519, 1⟩, -124937⟩, ⟨⟨126521, 126521, 1⟩, -124931⟩,
  ⟨⟨126523, 126523, 1⟩, -124929⟩, ⟨⟨126530, 126530, 1⟩, -124950⟩, ⟨⟨126535, 126535, 1⟩, -124954⟩,
  ⟨⟨126537, 126537, 1⟩, -124927⟩, ⟨⟨126539, 126541, 2⟩, -124935⟩, ⟨⟨126542, 126542, 1⟩, -124955⟩,
  ⟨⟨126543, 126543, 1⟩, -124950⟩, ⟨⟨126545, 126545, 1⟩, -124956⟩, ⟨⟨126546, 126546, 1⟩, -124944⟩,
  ⟨⟨126548, 126548, 1⟩, -124960⟩, ⟨⟨126551, 126551, 1⟩, -124969⟩, ⟨⟨126553, 126553, 1⟩, -124963⟩,
  ⟨⟨126555, 126555, 1⟩, -124961⟩, ⟨⟨126557, 126557, 1⟩, -124835⟩, ⟨⟨126559, 126559, 1⟩, -124912⟩,
  ⟨⟨126561, 126561, 1⟩, -124985⟩, ⟨⟨126562, 126562, 1⟩, -124982⟩, ⟨⟨126564, 126564, 1⟩, -124957⟩,
  ⟨⟨126567, 126567, 1⟩, -124986⟩, ⟨⟨126568, 126568, 1⟩, -124977⟩, ⟨⟨126569, 126569, 1⟩, -124959⟩,
  ⟨⟨126570, 126572, 2⟩, -124967⟩, ⟨⟨126573, 126573, 1⟩, -124967⟩, ⟨⟨126574, 126574, 1⟩, -124987⟩,
  ⟨⟨126575, 126575, 1⟩, -124982⟩, ⟨⟨126576, 126576, 1⟩, -124975⟩, ⟨⟨126577, 126577, 1⟩, -124988⟩,
  ⟨⟨126578, 126578, 1⟩, -124976⟩, ⟨⟨126580, 126580, 1⟩, -124992⟩, ⟨⟨126581, 126582, 1⟩, -125003⟩,
  ⟨⟨126583, 126583, 1⟩, -125001⟩, ⟨⟨126585, 126585, 1⟩, -124995⟩, ⟨⟨126586, 126586, 1⟩, -124994⟩,
  ⟨⟨126587, 126587, 1⟩, -124993⟩, ⟨⟨126588, 126588, 1⟩, -124942⟩, ⟨⟨126590, 126590, 1⟩, -124893⟩,
  ⟨⟨126592, 126593, 1⟩, -125017⟩, ⟨⟨126594, 126594, 1⟩, -125014⟩, ⟨⟨126595, 126595, 1⟩, -125012⟩,
  ⟨⟨126596, 126597, 1⟩, -124989⟩, ⟨⟨126598, 126598, 1⟩, -125012⟩, ⟨⟨126599, 126599, 1⟩, -125018⟩,
  ⟨⟨126600, 126600, 1⟩, -125009⟩, ⟨⟨126601, 126601, 1⟩, -124991⟩, ⟨⟨126603, 126605, 1⟩, -124999⟩,
  ⟨⟨126606, 126606, 1⟩, -125019⟩, ⟨⟨126607, 126607, 1⟩, -125014⟩, ⟨⟨126608, 126608, 1⟩, -125007⟩,
  ⟨⟨126609, 126609, 1⟩, -125020⟩, ⟨⟨126610, 126610, 1⟩, -125008⟩, ⟨⟨126611, 126611, 1⟩, -125026⟩,
  ⟨⟨126612, 126612, 1⟩, -125024⟩, ⟨⟨126613, 126614, 1⟩, -125035⟩, ⟨⟨126615, 126615, 1⟩, -125033⟩,
  ⟨⟨126616, 126616, 1⟩, -125032⟩, ⟨⟨126617, 126617, 1⟩, -125027⟩, ⟨⟨126618, 126618, 1⟩, -125026⟩,
  ⟨⟨126619, 126619, 1⟩, -125025⟩, ⟨⟨126625, 126625, 1⟩, -125049⟩, ⟨⟨126626, 126626, 1⟩, -125046⟩,
  ⟨⟨126627, 126627, 1⟩, -125044⟩, ⟨⟨126629, 126629, 1⟩, -125021⟩, ⟨⟨126630, 126630, 1⟩, -125044⟩,
  ⟨⟨126631, 126631, 1⟩, -125050⟩, ⟨⟨126632, 126632, 1⟩, -125041⟩, ⟨⟨126633, 126633, 1⟩, -125023⟩,
  ⟨⟨126635, 126637, 1⟩, -125031⟩, ⟨⟨126638, 126638, 1⟩, -125051⟩, ⟨⟨126639, 126639, 1⟩, -125046⟩,
  ⟨⟨126640, 126640, 1⟩, -125039⟩, ⟨⟨126641, 126641, 1⟩, -125052⟩, ⟨⟨126642, 126642, 1⟩, -125040⟩,
  ⟨⟨126643, 126643, 1⟩, -125058⟩, ⟨⟨126644, 126644, 1⟩, -125056⟩, ⟨⟨126645, 126646, 1⟩, -125067⟩,
  ⟨⟨126647, 126647, 1⟩, -125065⟩, ⟨⟨126648, 126648, 1⟩, -125064⟩, ⟨⟨126649, 126649, 1⟩, -125059⟩,
  ⟨⟨126650, 126650, 1⟩, -125058⟩, ⟨⟨126651, 126651, 1⟩, -125057⟩, ⟨⟨130032, 130041, 1⟩, -129984⟩]

def several : List (Nat × List Nat) := [
  (306, [73, 74]), (307, [105, 106]), (319, [76, 183]), (320, [108, 183]), (329, [700, 110]),
  (452, [68, 381]), (453, [68, 382]), (454, [100, 382]), (455, [76, 74]), (456, [76, 106]),
  (457, [108, 106]), (458, [78, 74]), (459, [78, 106]), (460, [110, 106]), (497, [68, 90]),
  (498, [68, 122]), (499, [100, 122]), (836, [776, 769]), (1415, [1381, 1410]),
  (1653, [1575, 1652]), (1654, [1608, 1652]), (1655, [1735, 1652]), (1656, [1610, 1652]),
  (2392, [2325, 2364]), (2393, [2326, 2364]), (2394, [2327, 2364]), (2395, [2332, 2364]),
  (2396, [2337, 2364]), (2397, [2338, 2364]), (2398, [2347, 2364]), (2399, [2351, 2364]),
  (2524, [2465, 2492]), (2525, [2466, 2492]), (2527, [2479, 2492]), (2611, [2610, 2620]),
  (2614, [2616, 2620]), (2649, [2582, 2620]), (2650, [2583, 2620]), (2651, [2588, 2620]),
  (2654, [2603, 2620]), (2908, [2849, 2876]), (2909, [2850, 2876]), (3635, [3661, 3634]),
  (3763, [3789, 3762]), (3804, [3755, 3737]), (3805, [3755, 3745]), (3907, [3906, 4023]),
  (3917, [3916, 4023]), (3922, [3921, 4023]), (3927, [3926, 4023]), (3932, [3931, 4023]),
  (3945, [3904, 4021]), (3955, [3953, 3954]), (3957, [3953, 3956]), (3958, [4018, 3968]),
  (3959, [4018, 3953, 3968]), (3960, [4019, 3968]), (3961, [4019, 3953, 3968]),
  (3969, [3953, 3968]), (3987, [3986, 4023]), (3997, [3996, 4023]), (4002, [4001, 4023]),
  (4007, [4006, 4023]), (4012, [4011, 4023]), (4025, [3984, 4021]), (7834, [97, 702]),
  (8545, [73, 73]), (8546, [73, 73, 73]), (8547, [73, 86]), (8549, [86, 73]),
  (8550, [86, 73, 73]), (8551, [86, 73, 73, 73]), (8552, [73, 88]), (8554, [88, 73]),
  (8555, [88, 73, 73]), (8561, [105, 105]), (8562, [105, 105, 105]), (8563, [105, 118]),
  (8565, [118, 105]), (8566, [118, 105, 105]), (8567, [118, 105, 105, 105]), (8568, [105, 120]),
  (8570, [120, 105]), (8571, [120, 105, 105]), (12447, [12424, 12426]), (12543, [12467, 12488]),
  (64256, [102, 102]), (64257, [102, 105]), (64258, [102, 108]), (64259, [102, 102, 105]),
  (64260, [102, 102, 108]), (64261, [115, 116]), (64262, [115, 116]), (64275, [1396, 1398]),
  (64276, [1396, 1381]), (64277, [1396, 1387]), (64278, [1406, 1398]), (64279, [1396, 1389]),
  (64285, [1497, 1460]), (64287, [1522, 1463]), (64298, [1513, 1473]), (64299, [1513, 1474]),
  (64300, [1513, 1468, 1473]), (64301, [1513, 1468, 1474]), (64302, [1488, 1463]),
  (64303, [1488, 1464]), (64304, [1488, 1468]), (64305, [1489, 1468]), (64306, [1490, 1468]),
  (64307, [1491, 1468]), (64308, [1492, 1468]), (64309, [1493, 1468]), (64310, [1494, 1468]),
  (64312, [1496, 1468]), (64313, [1497, 1468]), (64314, [1498, 1468]), (64315, [1499, 1468]),
  (64316, [1500, 1468]), (64318, [1502, 1468]), (64320, [1504, 1468]), (64321, [1505, 1468]),
  (64323, [1507, 1468]), (64324, [1508, 1468]), (64326, [1510, 1468]), (64327, [1511, 1468]),
  (64328, [1512, 1468]), (64329, [1513, 1468]), (64330, [1514, 1468]), (64331, [1493, 1465]),
  (64332, [1489, 1471]), (64333, [1499, 1471]), (64334, [1508, 1471]), (64335, [1488, 1500])]

/-- For a following character, the characters that it composes with and what becomes of them. -/
def compositions : List (Nat × List (Nat × Nat)) := [
  (768,
    [(65, 192), (69, 200), (73, 204), (79, 210), (85, 217), (97, 224), (101, 232), (105, 236),
    (111, 242), (117, 249), (220, 475), (252, 476), (78, 504), (110, 505), (1045, 1024),
    (1048, 1037), (1077, 1104), (1080, 1117), (274, 7700), (275, 7701), (332, 7760), (333, 7761),
    (87, 7808), (119, 7809), (194, 7846), (226, 7847), (258, 7856), (259, 7857), (202, 7872),
    (234, 7873), (212, 7890), (244, 7891), (416, 7900), (417, 7901), (431, 7914), (432, 7915),
    (89, 7922), (121, 7923), (7936, 7938), (7937, 7939), (7944, 7946), (7945, 7947), (7952, 7954),
    (7953, 7955), (7960, 7962), (7961, 7963), (7968, 7970), (7969, 7971), (7976, 7978),
    (7977, 7979), (7984, 7986), (7985, 7987), (7992, 7994), (7993, 7995), (8000, 8002),
    (8001, 8003), (8008, 8010), (8009, 8011), (8016, 8018), (8017, 8019), (8025, 8027),
    (8032, 8034), (8033, 8035), (8040, 8042), (8041, 8043), (945, 8048), (949, 8050), (951, 8052),
    (953, 8054), (959, 8056), (965, 8058), (969, 8060), (913, 8122), (917, 8136), (919, 8138),
    (8127, 8141), (970, 8146), (921, 8154), (8190, 8157), (971, 8162), (933, 8170), (168, 8173),
    (927, 8184), (937, 8186)]),
  (769,
    [(65, 193), (69, 201), (73, 205), (79, 211), (85, 218), (89, 221), (97, 225), (101, 233),
    (105, 237), (111, 243), (117, 250), (121, 253), (67, 262), (99, 263), (76, 313), (108, 314),
    (78, 323), (110, 324), (82, 340), (114, 341), (83, 346), (115, 347), (90, 377), (122, 378),
    (220, 471), (252, 472), (71, 500), (103, 501), (197, 506), (229, 507), (198, 508), (230, 509),
    (216, 510), (248, 511), (168, 901), (913, 902), (917, 904), (919, 905), (921, 906),
    (927, 908), (933, 910), (937, 911), (970, 912), (945, 940), (949, 941), (951, 942),
    (953, 943), (971, 944), (959, 972), (965, 973), (969, 974), (978, 979), (1043, 1027),
    (1050, 1036), (1075, 1107), (1082, 1116), (199, 7688), (231, 7689), (274, 7702), (275, 7703),
    (207, 7726), (239, 7727), (75, 7728), (107, 7729), (77, 7742), (109, 7743), (213, 7756),
    (245, 7757), (332, 7762), (333, 7763), (80, 7764), (112, 7765), (360, 7800), (361, 7801),
    (87, 7810), (119, 7811), (194, 7844), (226, 7845), (258, 7854), (259, 7855), (202, 7870),
    (234, 7871), (212, 7888), (244, 7889), (416, 7898), (417, 7899), (431, 7912), (432, 7913),
    (7936, 7940), (7937, 7941), (7944, 7948), (7945, 7949), (7952, 7956), (7953, 7957),
    (7960, 7964), (7961, 7965), (7968, 7972), (7969, 7973), (7976, 7980), (7977, 7981),
    (7984, 7988), (7985, 7989), (7992, 7996), (7993, 7997), (8000, 8004), (8001, 8005),
    (8008, 8012), (8009, 8013), (8016, 8020), (8017, 8021), (8025, 8029), (8032, 8036),
    (8033, 8037), (8040, 8044), (8041, 8045), (8127, 8142), (8190, 8158)]),
  (770,
    [(65, 194), (69, 202), (73, 206), (79, 212), (85, 219), (97, 226), (101, 234), (105, 238),
    (111, 244), (117, 251), (67, 264), (99, 265), (71, 284), (103, 285), (72, 292), (104, 293),
    (74, 308), (106, 309), (83, 348), (115, 349), (87, 372), (119, 373), (89, 374), (121, 375),
    (90, 7824), (122, 7825), (7840, 7852), (7841, 7853), (7864, 7878), (7865, 7879), (7884, 7896),
    (7885, 7897)]),
  (771,
    [(65, 195), (78, 209), (79, 213), (97, 227), (110, 241), (111, 245), (73, 296), (105, 297),
    (85, 360), (117, 361), (86, 7804), (118, 7805), (194, 7850), (226, 7851), (258, 7860),
    (259, 7861), (69, 7868), (101, 7869), (202, 7876), (234, 7877), (212, 7894), (244, 7895),
    (416, 7904), (417, 7905), (431, 7918), (432, 7919), (89, 7928), (121, 7929)]),
  (772,
    [(65, 256), (97, 257), (69, 274), (101, 275), (73, 298), (105, 299), (79, 332), (111, 333),
    (85, 362), (117, 363), (220, 469), (252, 470), (196, 478), (228, 479), (550, 480), (551, 481),
    (198, 482), (230, 483), (490, 492), (491, 493), (214, 554), (246, 555), (213, 556),
    (245, 557), (558, 560), (559, 561), (89, 562), (121, 563), (1048, 1250), (1080, 1251),
    (1059, 1262), (1091, 1263), (71, 7712), (103, 7713), (7734, 7736), (7735, 7737), (7770, 7772),
    (7771, 7773), (945, 8113), (913, 8121), (953, 8145), (921, 8153), (965, 8161), (933, 8169)]),
  (774,
    [(65, 258), (97, 259), (69, 276), (101, 277), (71, 286), (103, 287), (73, 300), (105, 301),
    (79, 334), (111, 335), (85, 364), (117, 365), (1059, 1038), (1048, 1049), (1080, 1081),
    (1091, 1118), (1046, 1217), (1078, 1218), (1040, 1232), (1072, 1233), (1045, 1238),
    (1077, 1239), (552, 7708), (553, 7709), (7840, 7862), (7841, 7863), (945, 8112), (913, 8120),
    (953, 8144), (921, 8152), (965, 8160), (933, 8168)]),
  (775,
    [(67, 266), (99, 267), (69, 278), (101, 279), (71, 288), (103, 289), (73, 304), (90, 379),
    (122, 380), (65, 550), (97, 551), (79, 558), (111, 559), (66, 7682), (98, 7683), (68, 7690),
    (100, 7691), (70, 7710), (102, 7711), (72, 7714), (104, 7715), (77, 7744), (109, 7745),
    (78, 7748), (110, 7749), (80, 7766), (112, 7767), (82, 7768), (114, 7769), (83, 7776),
    (115, 7777), (346, 7780), (347, 7781), (352, 7782), (353, 7783), (7778, 7784), (7779, 7785),
    (84, 7786), (116, 7787), (87, 7814), (119, 7815), (88, 7818), (120, 7819), (89, 7822),
    (121, 7823), (383, 7835)]),
  (776,
    [(65, 196), (69, 203), (73, 207), (79, 214), (85, 220), (97, 228), (101, 235), (105, 239),
    (111, 246), (117, 252), (121, 255), (89, 376), (921, 938), (933, 939), (953, 970), (965, 971),
    (978, 980), (1045, 1025), (1030, 1031), (1077, 1105), (1110, 1111), (1040, 1234),
    (1072, 1235), (1240, 1242), (1241, 1243), (1046, 1244), (1078, 1245), (1047, 1246),
    (1079, 1247), (1048, 1252), (1080, 1253), (1054, 1254), (1086, 1255), (1256, 1258),
    (1257, 1259), (1069, 1260), (1101, 1261), (1059, 1264), (1091, 1265), (1063, 1268),
    (1095, 1269), (1067, 1272), (1099, 1273), (72, 7718), (104, 7719), (213, 7758), (245, 7759),
    (362, 7802), (363, 7803), (87, 7812), (119, 7813), (88, 7820), (120, 7821), (116, 7831)]),
  (777,
    [(65, 7842), (97, 7843), (194, 7848), (226, 7849), (258, 7858), (259, 7859), (69, 7866),
    (101, 7867), (202, 7874), (234, 7875), (73, 7880), (105, 7881), (79, 7886), (111, 7887),
    (212, 7892), (244, 7893), (416, 7902), (417, 7903), (85, 7910), (117, 7911), (431, 7916),
    (432, 7917), (89, 7926), (121, 7927)]),
  (778,
    [(65, 197), (97, 229), (85, 366), (117, 367), (119, 7832), (121, 7833)]),
  (779,
    [(79, 336), (111, 337), (85, 368), (117, 369), (1059, 1266), (1091, 1267)]),
  (780,
    [(67, 268), (99, 269), (68, 270), (100, 271), (69, 282), (101, 283), (76, 317), (108, 318),
    (78, 327), (110, 328), (82, 344), (114, 345), (83, 352), (115, 353), (84, 356), (116, 357),
    (90, 381), (122, 382), (65, 461), (97, 462), (73, 463), (105, 464), (79, 465), (111, 466),
    (85, 467), (117, 468), (220, 473), (252, 474), (71, 486), (103, 487), (75, 488), (107, 489),
    (439, 494), (658, 495), (106, 496), (72, 542), (104, 543)]),
  (783,
    [(65, 512), (97, 513), (69, 516), (101, 517), (73, 520), (105, 521), (79, 524), (111, 525),
    (82, 528), (114, 529), (85, 532), (117, 533), (1140, 1142), (1141, 1143)]),
  (785,
    [(65, 514), (97, 515), (69, 518), (101, 519), (73, 522), (105, 523), (79, 526), (111, 527),
    (82, 530), (114, 531), (85, 534), (117, 535)]),
  (787,
    [(945, 7936), (913, 7944), (949, 7952), (917, 7960), (951, 7968), (919, 7976), (953, 7984),
    (921, 7992), (959, 8000), (927, 8008), (965, 8016), (969, 8032), (937, 8040), (961, 8164)]),
  (788,
    [(945, 7937), (913, 7945), (949, 7953), (917, 7961), (951, 7969), (919, 7977), (953, 7985),
    (921, 7993), (959, 8001), (927, 8009), (965, 8017), (933, 8025), (969, 8033), (937, 8041),
    (961, 8165), (929, 8172)]),
  (795,
    [(79, 416), (111, 417), (85, 431), (117, 432)]),
  (803,
    [(66, 7684), (98, 7685), (68, 7692), (100, 7693), (72, 7716), (104, 7717), (75, 7730),
    (107, 7731), (76, 7734), (108, 7735), (77, 7746), (109, 7747), (78, 7750), (110, 7751),
    (82, 7770), (114, 7771), (83, 7778), (115, 7779), (84, 7788), (116, 7789), (86, 7806),
    (118, 7807), (87, 7816), (119, 7817), (90, 7826), (122, 7827), (65, 7840), (97, 7841),
    (69, 7864), (101, 7865), (73, 7882), (105, 7883), (79, 7884), (111, 7885), (416, 7906),
    (417, 7907), (85, 7908), (117, 7909), (431, 7920), (432, 7921), (89, 7924), (121, 7925)]),
  (804,
    [(85, 7794), (117, 7795)]),
  (805,
    [(65, 7680), (97, 7681)]),
  (806,
    [(83, 536), (115, 537), (84, 538), (116, 539)]),
  (807,
    [(67, 199), (99, 231), (71, 290), (103, 291), (75, 310), (107, 311), (76, 315), (108, 316),
    (78, 325), (110, 326), (82, 342), (114, 343), (83, 350), (115, 351), (84, 354), (116, 355),
    (69, 552), (101, 553), (68, 7696), (100, 7697), (72, 7720), (104, 7721)]),
  (808,
    [(65, 260), (97, 261), (69, 280), (101, 281), (73, 302), (105, 303), (85, 370), (117, 371),
    (79, 490), (111, 491)]),
  (813,
    [(68, 7698), (100, 7699), (69, 7704), (101, 7705), (76, 7740), (108, 7741), (78, 7754),
    (110, 7755), (84, 7792), (116, 7793), (85, 7798), (117, 7799)]),
  (814,
    [(72, 7722), (104, 7723)]),
  (816,
    [(69, 7706), (101, 7707), (73, 7724), (105, 7725), (85, 7796), (117, 7797)]),
  (817,
    [(66, 7686), (98, 7687), (68, 7694), (100, 7695), (75, 7732), (107, 7733), (76, 7738),
    (108, 7739), (78, 7752), (110, 7753), (82, 7774), (114, 7775), (84, 7790), (116, 7791),
    (90, 7828), (122, 7829), (104, 7830)]),
  (824,
    [(8592, 8602), (8594, 8603), (8596, 8622), (8656, 8653), (8660, 8654), (8658, 8655),
    (8707, 8708), (8712, 8713), (8715, 8716), (8739, 8740), (8741, 8742), (8764, 8769),
    (8771, 8772), (8773, 8775), (8776, 8777), (61, 8800), (8801, 8802), (8781, 8813), (60, 8814),
    (62, 8815), (8804, 8816), (8805, 8817), (8818, 8820), (8819, 8821), (8822, 8824),
    (8823, 8825), (8826, 8832), (8827, 8833), (8834, 8836), (8835, 8837), (8838, 8840),
    (8839, 8841), (8866, 8876), (8872, 8877), (8873, 8878), (8875, 8879), (8828, 8928),
    (8829, 8929), (8849, 8930), (8850, 8931), (8882, 8938), (8883, 8939), (8884, 8940),
    (8885, 8941)]),
  (834,
    [(7936, 7942), (7937, 7943), (7944, 7950), (7945, 7951), (7968, 7974), (7969, 7975),
    (7976, 7982), (7977, 7983), (7984, 7990), (7985, 7991), (7992, 7998), (7993, 7999),
    (8016, 8022), (8017, 8023), (8025, 8031), (8032, 8038), (8033, 8039), (8040, 8046),
    (8041, 8047), (945, 8118), (168, 8129), (951, 8134), (8127, 8143), (953, 8150), (970, 8151),
    (8190, 8159), (965, 8166), (971, 8167), (969, 8182)]),
  (837,
    [(7936, 8064), (7937, 8065), (7938, 8066), (7939, 8067), (7940, 8068), (7941, 8069),
    (7942, 8070), (7943, 8071), (7944, 8072), (7945, 8073), (7946, 8074), (7947, 8075),
    (7948, 8076), (7949, 8077), (7950, 8078), (7951, 8079), (7968, 8080), (7969, 8081),
    (7970, 8082), (7971, 8083), (7972, 8084), (7973, 8085), (7974, 8086), (7975, 8087),
    (7976, 8088), (7977, 8089), (7978, 8090), (7979, 8091), (7980, 8092), (7981, 8093),
    (7982, 8094), (7983, 8095), (8032, 8096), (8033, 8097), (8034, 8098), (8035, 8099),
    (8036, 8100), (8037, 8101), (8038, 8102), (8039, 8103), (8040, 8104), (8041, 8105),
    (8042, 8106), (8043, 8107), (8044, 8108), (8045, 8109), (8046, 8110), (8047, 8111),
    (8048, 8114), (945, 8115), (940, 8116), (8118, 8119), (913, 8124), (8052, 8130), (951, 8131),
    (942, 8132), (8134, 8135), (919, 8140), (8060, 8178), (969, 8179), (974, 8180), (8182, 8183),
    (937, 8188)]),
  (1619,
    [(1575, 1570)]),
  (1620,
    [(1575, 1571), (1608, 1572), (1610, 1574), (1749, 1728), (1729, 1730), (1746, 1747)]),
  (1621,
    [(1575, 1573)]),
  (2364,
    [(2344, 2345), (2352, 2353), (2355, 2356)]),
  (2494,
    [(2503, 2507)]),
  (2519,
    [(2503, 2508)]),
  (2878,
    [(2887, 2891)]),
  (2902,
    [(2887, 2888)]),
  (2903,
    [(2887, 2892)]),
  (3006,
    [(3014, 3018), (3015, 3019)]),
  (3031,
    [(2962, 2964), (3014, 3020)]),
  (3158,
    [(3142, 3144)]),
  (3266,
    [(3270, 3274)]),
  (3285,
    [(3263, 3264), (3270, 3271), (3274, 3275)]),
  (3286,
    [(3270, 3272)]),
  (3390,
    [(3398, 3402), (3399, 3403)]),
  (3415,
    [(3398, 3404)]),
  (3530,
    [(3545, 3546), (3548, 3549)]),
  (3535,
    [(3545, 3548)]),
  (3551,
    [(3545, 3550)]),
  (4142,
    [(4133, 4134)]),
  (6965,
    [(6917, 6918), (6919, 6920), (6921, 6922), (6923, 6924), (6925, 6926), (6929, 6930),
    (6970, 6971), (6972, 6973), (6974, 6976), (6975, 6977), (6978, 6979)]),
  (12441,
    [(12363, 12364), (12365, 12366), (12367, 12368), (12369, 12370), (12371, 12372),
    (12373, 12374), (12375, 12376), (12377, 12378), (12379, 12380), (12381, 12382),
    (12383, 12384), (12385, 12386), (12388, 12389), (12390, 12391), (12392, 12393),
    (12399, 12400), (12402, 12403), (12405, 12406), (12408, 12409), (12411, 12412),
    (12358, 12436), (12445, 12446), (12459, 12460), (12461, 12462), (12463, 12464),
    (12465, 12466), (12467, 12468), (12469, 12470), (12471, 12472), (12473, 12474),
    (12475, 12476), (12477, 12478), (12479, 12480), (12481, 12482), (12484, 12485),
    (12486, 12487), (12488, 12489), (12495, 12496), (12498, 12499), (12501, 12502),
    (12504, 12505), (12507, 12508), (12454, 12532), (12527, 12535), (12528, 12536),
    (12529, 12537), (12530, 12538), (12541, 12542)]),
  (12442,
    [(12399, 12401), (12402, 12404), (12405, 12407), (12408, 12410), (12411, 12413),
    (12495, 12497), (12498, 12500), (12501, 12503), (12504, 12506), (12507, 12509)]),
  (69818,
    [(69785, 69786), (69787, 69788), (69797, 69803)]),
  (69927,
    [(69937, 69934), (69938, 69935)]),
  (70462,
    [(70471, 70475)]),
  (70487,
    [(70471, 70476)]),
  (70832,
    [(70841, 70844)]),
  (70842,
    [(70841, 70843)]),
  (70845,
    [(70841, 70846)]),
  (71087,
    [(71096, 71098), (71097, 71099)]),
  (71984,
    [(71989, 71992)])]

/-- Combining classes of runs of marks; a character of no run has class zero. -/
def classes : List (Nat × Nat × Nat) := [
  (768, 788, 230), (789, 789, 232), (790, 793, 220), (794, 794, 232), (795, 795, 216),
  (796, 800, 220), (801, 802, 202), (803, 806, 220), (807, 808, 202), (809, 819, 220),
  (820, 824, 1), (825, 828, 220), (829, 836, 230), (837, 837, 240), (838, 838, 230),
  (839, 841, 220), (842, 844, 230), (845, 846, 220), (848, 850, 230), (851, 854, 220),
  (855, 855, 230), (856, 856, 232), (857, 858, 220), (859, 859, 230), (860, 860, 233),
  (861, 862, 234), (863, 863, 233), (864, 865, 234), (866, 866, 233), (867, 879, 230),
  (1155, 1159, 230), (1425, 1425, 220), (1426, 1429, 230), (1430, 1430, 220), (1431, 1433, 230),
  (1434, 1434, 222), (1435, 1435, 220), (1436, 1441, 230), (1442, 1447, 220), (1448, 1449, 230),
  (1450, 1450, 220), (1451, 1452, 230), (1453, 1453, 222), (1454, 1454, 228), (1455, 1455, 230),
  (1456, 1456, 10), (1457, 1457, 11), (1458, 1458, 12), (1459, 1459, 13), (1460, 1460, 14),
  (1461, 1461, 15), (1462, 1462, 16), (1463, 1463, 17), (1464, 1464, 18), (1465, 1466, 19),
  (1467, 1467, 20), (1468, 1468, 21), (1469, 1469, 22), (1471, 1471, 23), (1473, 1473, 24),
  (1474, 1474, 25), (1476, 1476, 230), (1477, 1477, 220), (1479, 1479, 18), (1552, 1559, 230),
  (1560, 1560, 30), (1561, 1561, 31), (1562, 1562, 32), (1611, 1611, 27), (1612, 1612, 28),
  (1613, 1613, 29), (1614, 1614, 30), (1615, 1615, 31), (1616, 1616, 32), (1617, 1617, 33),
  (1618, 1618, 34), (1619, 1620, 230), (1621, 1622, 220), (1623, 1627, 230), (1628, 1628, 220),
  (1629, 1630, 230), (1631, 1631, 220), (1648, 1648, 35), (1750, 1756, 230), (1759, 1762, 230),
  (1763, 1763, 220), (1764, 1764, 230), (1767, 1768, 230), (1770, 1770, 220), (1771, 1772, 230),
  (1773, 1773, 220), (1809, 1809, 36), (1840, 1840, 230), (1841, 1841, 220), (1842, 1843, 230),
  (1844, 1844, 220), (1845, 1846, 230), (1847, 1849, 220), (1850, 1850, 230), (1851, 1852, 220),
  (1853, 1853, 230), (1854, 1854, 220), (1855, 1857, 230), (1858, 1858, 220), (1859, 1859, 230),
  (1860, 1860, 220), (1861, 1861, 230), (1862, 1862, 220), (1863, 1863, 230), (1864, 1864, 220),
  (1865, 1866, 230), (2027, 2033, 230), (2034, 2034, 220), (2035, 2035, 230), (2045, 2045, 220),
  (2070, 2073, 230), (2075, 2083, 230), (2085, 2087, 230), (2089, 2093, 230), (2137, 2139, 220),
  (2200, 2200, 230), (2201, 2203, 220), (2204, 2207, 230), (2250, 2254, 230), (2255, 2259, 220),
  (2260, 2273, 230), (2275, 2275, 220), (2276, 2277, 230), (2278, 2278, 220), (2279, 2280, 230),
  (2281, 2281, 220), (2282, 2284, 230), (2285, 2287, 220), (2288, 2288, 27), (2289, 2289, 28),
  (2290, 2290, 29), (2291, 2293, 230), (2294, 2294, 220), (2295, 2296, 230), (2297, 2298, 220),
  (2299, 2303, 230), (2364, 2364, 7), (2381, 2381, 9), (2385, 2385, 230), (2386, 2386, 220),
  (2387, 2388, 230), (2492, 2492, 7), (2509, 2509, 9), (2558, 2558, 230), (2620, 2620, 7),
  (2637, 2637, 9), (2748, 2748, 7), (2765, 2765, 9), (2876, 2876, 7), (2893, 2893, 9),
  (3021, 3021, 9), (3132, 3132, 7), (3149, 3149, 9), (3157, 3157, 84), (3158, 3158, 91),
  (3260, 3260, 7), (3277, 3277, 9), (3387, 3388, 9), (3405, 3405, 9), (3530, 3530, 9),
  (3640, 3641, 103), (3642, 3642, 9), (3656, 3659, 107), (3768, 3769, 118), (3770, 3770, 9),
  (3784, 3787, 122), (3864, 3865, 220), (3893, 3893, 220), (3895, 3895, 220), (3897, 3897, 216),
  (3953, 3953, 129), (3954, 3954, 130), (3956, 3956, 132), (3962, 3965, 130), (3968, 3968, 130),
  (3970, 3971, 230), (3972, 3972, 9), (3974, 3975, 230), (4038, 4038, 220), (4151, 4151, 7),
  (4153, 4154, 9), (4237, 4237, 220), (4957, 4959, 230), (5908, 5909, 9), (5940, 5940, 9),
  (6098, 6098, 9), (6109, 6109, 230), (6313, 6313, 228), (6457, 6457, 222), (6458, 6458, 230),
  (6459, 6459, 220), (6679, 6679, 230), (6680, 6680, 220), (6752, 6752, 9), (6773, 6780, 230),
  (6783, 6783, 220), (6832, 6836, 230), (6837, 6842, 220), (6843, 6844, 230), (6845, 6845, 220),
  (6847, 6848, 220), (6849, 6850, 230), (6851, 6852, 220), (6853, 6857, 230), (6858, 6858, 220),
  (6859, 6862, 230), (6964, 6964, 7), (6980, 6980, 9), (7019, 7019, 230), (7020, 7020, 220),
  (7021, 7027, 230), (7082, 7083, 9), (7142, 7142, 7), (7154, 7155, 9), (7223, 7223, 7),
  (7376, 7378, 230), (7380, 7380, 1), (7381, 7385, 220), (7386, 7387, 230), (7388, 7391, 220),
  (7392, 7392, 230), (7394, 7400, 1), (7405, 7405, 220), (7412, 7412, 230), (7416, 7417, 230),
  (7616, 7617, 230), (7618, 7618, 220), (7619, 7625, 230), (7626, 7626, 220), (7627, 7628, 230),
  (7629, 7629, 234), (7630, 7630, 214), (7631, 7631, 220), (7632, 7632, 202), (7633, 7669, 230),
  (7670, 7670, 232), (7671, 7672, 228), (7673, 7673, 220), (7674, 7674, 218), (7675, 7675, 230),
  (7676, 7676, 233), (7677, 7677, 220), (7678, 7678, 230), (7679, 7679, 220), (8400, 8401, 230),
  (8402, 8403, 1), (8404, 8407, 230), (8408, 8410, 1), (8411, 8412, 230), (8417, 8417, 230),
  (8421, 8422, 1), (8423, 8423, 230), (8424, 8424, 220), (8425, 8425, 230), (8426, 8427, 1),
  (8428, 8431, 220), (8432, 8432, 230), (11503, 11505, 230), (11647, 11647, 9),
  (11744, 11775, 230), (12330, 12330, 218), (12331, 12331, 228), (12332, 12332, 232),
  (12333, 12333, 222), (12334, 12335, 224), (12441, 12442, 8), (42607, 42607, 230),
  (42612, 42621, 230), (42654, 42655, 230), (42736, 42737, 230), (43014, 43014, 9),
  (43052, 43052, 9), (43204, 43204, 9), (43232, 43249, 230), (43307, 43309, 220),
  (43347, 43347, 9), (43443, 43443, 7), (43456, 43456, 9), (43696, 43696, 230),
  (43698, 43699, 230), (43700, 43700, 220), (43703, 43704, 230), (43710, 43711, 230),
  (43713, 43713, 230), (43766, 43766, 9), (44013, 44013, 9), (64286, 64286, 26),
  (65056, 65062, 230), (65063, 65069, 220), (65070, 65071, 230), (66045, 66045, 220),
  (66272, 66272, 220), (66422, 66426, 230), (68109, 68109, 220), (68111, 68111, 230),
  (68152, 68152, 230), (68153, 68153, 1), (68154, 68154, 220), (68159, 68159, 9),
  (68325, 68325, 230), (68326, 68326, 220), (68900, 68903, 230), (69291, 69292, 230),
  (69446, 69447, 220), (69448, 69450, 230), (69451, 69451, 220), (69452, 69452, 230),
  (69453, 69456, 220), (69506, 69506, 230), (69507, 69507, 220), (69508, 69508, 230),
  (69509, 69509, 220), (69702, 69702, 9), (69744, 69744, 9), (69759, 69759, 9), (69817, 69817, 9),
  (69818, 69818, 7), (69888, 69890, 230), (69939, 69940, 9), (70003, 70003, 7), (70080, 70080, 9),
  (70090, 70090, 7), (70197, 70197, 9), (70198, 70198, 7), (70377, 70377, 7), (70378, 70378, 9),
  (70459, 70460, 7), (70477, 70477, 9), (70502, 70508, 230), (70512, 70516, 230),
  (70722, 70722, 9), (70726, 70726, 7), (70750, 70750, 230), (70850, 70850, 9), (70851, 70851, 7),
  (71103, 71103, 9), (71104, 71104, 7), (71231, 71231, 9), (71350, 71350, 9), (71351, 71351, 7),
  (71467, 71467, 9), (71737, 71737, 9), (71738, 71738, 7), (71997, 71998, 9), (72003, 72003, 7),
  (72160, 72160, 9), (72244, 72244, 9), (72263, 72263, 9), (72345, 72345, 9), (72767, 72767, 9),
  (73026, 73026, 7), (73028, 73029, 9), (73111, 73111, 9), (92912, 92916, 1), (92976, 92982, 230),
  (94192, 94193, 6), (113822, 113822, 1), (119141, 119142, 216), (119143, 119145, 1),
  (119149, 119149, 226), (119150, 119154, 216), (119163, 119170, 220), (119173, 119177, 230),
  (119178, 119179, 220), (119210, 119213, 230), (119362, 119364, 230), (122880, 122886, 230),
  (122888, 122904, 230), (122907, 122913, 230), (122915, 122916, 230), (122918, 122922, 230),
  (123184, 123190, 230), (123566, 123566, 230), (123628, 123631, 230), (125136, 125142, 220),
  (125252, 125257, 230), (125258, 125258, 7)]

end EnumTables.Text.FormTable
