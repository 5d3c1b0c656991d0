/-!
# Tables of plain forms

`markRuns` lists the combining marks by run lengths. `plainRuns` lists the characters whose
compatibility decomposition without marks differs from the character itself, with these plain forms:
a run gives the forms of code points that follow each other. Hangul syllables are not among them,
as they are computed.
-/

namespace Dialogue.Text

/-- Combining marks: the characters of a nonzero combining class. -/
def markRuns : List Nat := [
  768, 79, 1, 32, 275, 5, 265, 45, 1, 1, 1, 2, 1, 2, 1, 1, 72, 11, 48, 21, 16, 1, 101, 7, 2, 6, 2,
  2, 1, 4, 35, 1, 30, 27, 160, 9, 9, 1, 24, 4, 1, 9, 1, 3, 1, 5, 43, 3, 60, 8, 42, 24, 1, 29, 60,
  1, 16, 1, 3, 4, 103, 1, 16, 1, 48, 1, 61, 1, 16, 1, 110, 1, 16, 1, 110, 1, 16, 1, 127, 1, 110,
  1, 16, 1, 7, 2, 101, 1, 16, 1, 109, 2, 16, 1, 124, 1, 109, 3, 13, 4, 108, 3, 13, 4, 76, 2, 27,
  1, 1, 1, 1, 1, 55, 2, 1, 1, 5, 4, 2, 1, 1, 3, 1, 2, 62, 1, 112, 1, 1, 2, 82, 1, 719, 3, 948, 2,
  30, 1, 157, 1, 10, 1, 203, 1, 143, 3, 219, 2, 71, 1, 20, 8, 2, 1, 48, 14, 1, 16, 101, 1, 15, 1,
  38, 9, 54, 2, 58, 1, 11, 2, 67, 1, 152, 3, 1, 13, 1, 7, 4, 1, 6, 1, 3, 2, 198, 64, 720, 13, 4,
  1, 3, 12, 3070, 3, 141, 1, 96, 32, 554, 6, 105, 2, 30164, 1, 4, 10, 32, 2, 80, 2, 276, 1, 37, 1,
  151, 1, 27, 18, 57, 3, 37, 1, 95, 1, 12, 1, 239, 1, 1, 3, 2, 2, 5, 2, 1, 1, 52, 1, 246, 1,
  20272, 1, 769, 16, 973, 1, 226, 1, 149, 5, 1682, 1, 1, 1, 40, 3, 4, 1, 165, 2, 573, 4, 387, 2,
  153, 11, 49, 4, 192, 1, 41, 1, 14, 1, 57, 2, 69, 3, 48, 2, 62, 1, 76, 1, 9, 1, 106, 2, 178, 2,
  80, 2, 16, 1, 24, 7, 3, 5, 205, 1, 3, 1, 23, 1, 99, 2, 251, 2, 126, 1, 118, 2, 115, 1, 269, 2,
  258, 2, 4, 1, 156, 1, 83, 1, 18, 1, 81, 1, 421, 1, 258, 1, 1, 2, 81, 1, 19800, 5, 59, 7, 1209,
  2, 19628, 1, 5318, 5, 3, 6, 8, 8, 2, 7, 30, 4, 148, 3, 3515, 7, 1, 17, 2, 7, 1, 2, 1, 5, 261, 7,
  375, 1, 61, 4, 1504, 7, 109, 7]

/-- The plain forms of consecutive code points, of which `first` is the first. -/
structure PlainRun where
  first : Nat
  forms : List (List Nat)

set_option maxRecDepth 50000 in
/-- The plain forms that are not computed, in the order of the code points. -/
def plainRuns : List PlainRun := [
  ⟨160, [[32]]⟩, ⟨168, [[32]]⟩, ⟨170, [[97]]⟩, ⟨175, [[32]]⟩, ⟨178, [[50], [51], [32], [956]]⟩,
  ⟨184, [[32], [49], [111]]⟩, ⟨188, [[49, 8260, 52], [49, 8260, 50], [51, 8260, 52]]⟩,
  ⟨192, [[65], [65], [65], [65], [65], [65]]⟩,
  ⟨199, [[67], [69], [69], [69], [69], [73], [73], [73], [73]]⟩,
  ⟨209, [[78], [79], [79], [79], [79], [79]]⟩, ⟨217, [[85], [85], [85], [85], [89]]⟩,
  ⟨224, [[97], [97], [97], [97], [97], [97]]⟩,
  ⟨231, [[99], [101], [101], [101], [101], [105], [105], [105], [105]]⟩,
  ⟨241, [[110], [111], [111], [111], [111], [111]]⟩, ⟨249, [[117], [117], [117], [117], [121]]⟩,
  ⟨255, [[121], [65], [97], [65], [97], [65], [97], [67], [99], [67], [99], [67], [99], [67], [99],
    [68], [100]]⟩,
  ⟨274, [[69], [101], [69], [101], [69], [101], [69], [101], [69], [101], [71], [103], [71], [103],
    [71], [103], [71], [103], [72], [104]]⟩,
  ⟨296, [[73], [105], [73], [105], [73], [105], [73], [105], [73]]⟩,
  ⟨306, [[73, 74], [105, 106], [74], [106], [75], [107]]⟩,
  ⟨313, [[76], [108], [76], [108], [76], [108], [76, 183], [108, 183]]⟩,
  ⟨323, [[78], [110], [78], [110], [78], [110], [700, 110]]⟩,
  ⟨332, [[79], [111], [79], [111], [79], [111]]⟩,
  ⟨340, [[82], [114], [82], [114], [82], [114], [83], [115], [83], [115], [83], [115], [83], [115],
    [84], [116], [84], [116]]⟩,
  ⟨360, [[85], [117], [85], [117], [85], [117], [85], [117], [85], [117], [85], [117], [87], [119],
    [89], [121], [89], [90], [122], [90], [122], [90], [122], [115]]⟩, ⟨416, [[79], [111]]⟩,
  ⟨431, [[85], [117]]⟩,
  ⟨452, [[68, 90], [68, 122], [100, 122], [76, 74], [76, 106], [108, 106], [78, 74], [78, 106],
    [110, 106], [65], [97], [73], [105], [79], [111], [85], [117], [85], [117], [85], [117], [85],
    [117], [85], [117]]⟩, ⟨478, [[65], [97], [65], [97], [198], [230]]⟩,
  ⟨486, [[71], [103], [75], [107], [79], [111], [79], [111], [439], [658], [106], [68, 90],
    [68, 122], [100, 122], [71], [103]]⟩,
  ⟨504, [[78], [110], [65], [97], [198], [230], [216], [248], [65], [97], [65], [97], [69], [101],
    [69], [101], [73], [105], [73], [105], [79], [111], [79], [111], [82], [114], [82], [114], [85],
    [117], [85], [117], [83], [115], [84], [116]]⟩, ⟨542, [[72], [104]]⟩,
  ⟨550, [[65], [97], [69], [101], [79], [111], [79], [111], [79], [111], [79], [111], [89], [121]]⟩,
  ⟨688, [[104], [614], [106], [114], [633], [635], [641], [119], [121]]⟩,
  ⟨728, [[32], [32], [32], [32], [32], [32]]⟩, ⟨736, [[611], [108], [115], [120], [661]]⟩,
  ⟨884, [[697]]⟩, ⟨890, [[32]]⟩, ⟨894, [[59]]⟩,
  ⟨900, [[32], [32], [913], [183], [917], [919], [921]]⟩, ⟨908, [[927]]⟩,
  ⟨910, [[933], [937], [953]]⟩, ⟨938, [[921], [933], [945], [949], [951], [953], [965]]⟩,
  ⟨970, [[953], [965], [959], [965], [969]]⟩,
  ⟨976, [[946], [952], [933], [933], [933], [966], [960]]⟩, ⟨1008, [[954], [961], [962]]⟩,
  ⟨1012, [[920], [949]]⟩, ⟨1017, [[931]]⟩, ⟨1024, [[1045], [1045]]⟩, ⟨1027, [[1043]]⟩,
  ⟨1031, [[1030]]⟩, ⟨1036, [[1050], [1048], [1059]]⟩, ⟨1049, [[1048]]⟩, ⟨1081, [[1080]]⟩,
  ⟨1104, [[1077], [1077]]⟩, ⟨1107, [[1075]]⟩, ⟨1111, [[1110]]⟩, ⟨1116, [[1082], [1080], [1091]]⟩,
  ⟨1142, [[1140], [1141]]⟩, ⟨1217, [[1046], [1078]]⟩, ⟨1232, [[1040], [1072], [1040], [1072]]⟩,
  ⟨1238, [[1045], [1077]]⟩, ⟨1242, [[1240], [1241], [1046], [1078], [1047], [1079]]⟩,
  ⟨1250, [[1048], [1080], [1048], [1080], [1054], [1086]]⟩,
  ⟨1258, [[1256], [1257], [1069], [1101], [1059], [1091], [1059], [1091], [1059], [1091], [1063],
    [1095]]⟩, ⟨1272, [[1067], [1099]]⟩, ⟨1415, [[1381, 1410]]⟩,
  ⟨1570, [[1575], [1575], [1608], [1575], [1610]]⟩,
  ⟨1653, [[1575, 1652], [1608, 1652], [1735, 1652], [1610, 1652]]⟩, ⟨1728, [[1749]]⟩,
  ⟨1730, [[1729]]⟩, ⟨1747, [[1746]]⟩, ⟨2345, [[2344]]⟩, ⟨2353, [[2352]]⟩, ⟨2356, [[2355]]⟩,
  ⟨2392, [[2325], [2326], [2327], [2332], [2337], [2338], [2347], [2351]]⟩,
  ⟨2507, [[2503, 2494], [2503, 2519]]⟩, ⟨2524, [[2465], [2466]]⟩, ⟨2527, [[2479]]⟩,
  ⟨2611, [[2610]]⟩, ⟨2614, [[2616]]⟩, ⟨2649, [[2582], [2583], [2588]]⟩, ⟨2654, [[2603]]⟩,
  ⟨2888, [[2887, 2902]]⟩, ⟨2891, [[2887, 2878], [2887, 2903]]⟩, ⟨2908, [[2849], [2850]]⟩,
  ⟨2964, [[2962, 3031]]⟩, ⟨3018, [[3014, 3006], [3015, 3006], [3014, 3031]]⟩, ⟨3144, [[3142]]⟩,
  ⟨3264, [[3263, 3285]]⟩, ⟨3271, [[3270, 3285], [3270, 3286]]⟩,
  ⟨3274, [[3270, 3266], [3270, 3266, 3285]]⟩, ⟨3402, [[3398, 3390], [3399, 3390], [3398, 3415]]⟩,
  ⟨3546, [[3545]]⟩, ⟨3548, [[3545, 3535], [3545, 3535], [3545, 3551]]⟩, ⟨3635, [[3661, 3634]]⟩,
  ⟨3763, [[3789, 3762]]⟩, ⟨3804, [[3755, 3737], [3755, 3745]]⟩, ⟨3852, [[3851]]⟩,
  ⟨3907, [[3906, 4023]]⟩, ⟨3917, [[3916, 4023]]⟩, ⟨3922, [[3921, 4023]]⟩, ⟨3927, [[3926, 4023]]⟩,
  ⟨3932, [[3931, 4023]]⟩, ⟨3945, [[3904, 4021]]⟩, ⟨3955, [[]]⟩,
  ⟨3957, [[], [4018], [4018], [4019], [4019]]⟩, ⟨3969, [[]]⟩, ⟨3987, [[3986, 4023]]⟩,
  ⟨3997, [[3996, 4023]]⟩, ⟨4002, [[4001, 4023]]⟩, ⟨4007, [[4006, 4023]]⟩, ⟨4012, [[4011, 4023]]⟩,
  ⟨4025, [[3984, 4021]]⟩, ⟨4134, [[4133, 4142]]⟩, ⟨4348, [[4316]]⟩, ⟨6918, [[6917, 6965]]⟩,
  ⟨6920, [[6919, 6965]]⟩, ⟨6922, [[6921, 6965]]⟩, ⟨6924, [[6923, 6965]]⟩, ⟨6926, [[6925, 6965]]⟩,
  ⟨6930, [[6929, 6965]]⟩, ⟨6971, [[6970, 6965]]⟩, ⟨6973, [[6972, 6965]]⟩,
  ⟨6976, [[6974, 6965], [6975, 6965]]⟩, ⟨6979, [[6978, 6965]]⟩, ⟨7468, [[65], [198], [66]]⟩,
  ⟨7472, [[68], [69], [398], [71], [72], [73], [74], [75], [76], [77], [78]]⟩,
  ⟨7484, [[79], [546], [80], [82], [84], [85], [87], [97], [592], [593], [7426], [98], [100], [101],
    [601], [603], [604], [103]]⟩,
  ⟨7503, [[107], [109], [331], [111], [596], [7446], [7447], [112], [116], [117], [7453], [623],
    [118], [7461], [946], [947], [948], [966], [967], [105], [114], [117], [118], [946], [947],
    [961], [966], [967]]⟩, ⟨7544, [[1085]]⟩,
  ⟨7579, [[594], [99], [597], [240], [604], [102], [607], [609], [613], [616], [617], [618], [7547],
    [669], [621], [7557], [671], [625], [624], [626], [627], [628], [629], [632], [642], [643],
    [427], [649], [650], [7452], [651], [652], [122], [656], [657], [658], [952]]⟩,
  ⟨7680, [[65], [97], [66], [98], [66], [98], [66], [98], [67], [99], [68], [100], [68], [100],
    [68], [100], [68], [100], [68], [100], [69], [101], [69], [101], [69], [101], [69], [101], [69],
    [101], [70], [102], [71], [103], [72], [104], [72], [104], [72], [104], [72], [104], [72],
    [104], [73], [105], [73], [105], [75], [107], [75], [107], [75], [107], [76], [108], [76],
    [108], [76], [108], [76], [108], [77], [109], [77], [109], [77], [109], [78], [110], [78],
    [110], [78], [110], [78], [110], [79], [111], [79], [111], [79], [111], [79], [111], [80],
    [112], [80], [112], [82], [114], [82], [114], [82], [114], [82], [114], [83], [115], [83],
    [115], [83], [115], [83], [115], [83], [115], [84], [116], [84], [116], [84], [116], [84],
    [116], [85], [117], [85], [117], [85], [117], [85], [117], [85], [117], [86], [118], [86],
    [118], [87], [119], [87], [119], [87], [119], [87], [119], [87], [119], [88], [120], [88],
    [120], [89], [121], [90], [122], [90], [122], [90], [122], [104], [116], [119], [121],
    [97, 702], [115]]⟩,
  ⟨7840, [[65], [97], [65], [97], [65], [97], [65], [97], [65], [97], [65], [97], [65], [97], [65],
    [97], [65], [97], [65], [97], [65], [97], [65], [97], [69], [101], [69], [101], [69], [101],
    [69], [101], [69], [101], [69], [101], [69], [101], [69], [101], [73], [105], [73], [105], [79],
    [111], [79], [111], [79], [111], [79], [111], [79], [111], [79], [111], [79], [111], [79],
    [111], [79], [111], [79], [111], [79], [111], [79], [111], [85], [117], [85], [117], [85],
    [117], [85], [117], [85], [117], [85], [117], [85], [117], [89], [121], [89], [121], [89],
    [121], [89], [121]]⟩,
  ⟨7936, [[945], [945], [945], [945], [945], [945], [945], [945], [913], [913], [913], [913], [913],
    [913], [913], [913], [949], [949], [949], [949], [949], [949]]⟩,
  ⟨7960, [[917], [917], [917], [917], [917], [917]]⟩,
  ⟨7968, [[951], [951], [951], [951], [951], [951], [951], [951], [919], [919], [919], [919], [919],
    [919], [919], [919], [953], [953], [953], [953], [953], [953], [953], [953], [921], [921],
    [921], [921], [921], [921], [921], [921], [959], [959], [959], [959], [959], [959]]⟩,
  ⟨8008, [[927], [927], [927], [927], [927], [927]]⟩,
  ⟨8016, [[965], [965], [965], [965], [965], [965], [965], [965]]⟩, ⟨8025, [[933]]⟩,
  ⟨8027, [[933]]⟩, ⟨8029, [[933]]⟩,
  ⟨8031, [[933], [969], [969], [969], [969], [969], [969], [969], [969], [937], [937], [937], [937],
    [937], [937], [937], [937], [945], [945], [949], [949], [951], [951], [953], [953], [959],
    [959], [965], [965], [969], [969]]⟩,
  ⟨8064, [[945], [945], [945], [945], [945], [945], [945], [945], [913], [913], [913], [913], [913],
    [913], [913], [913], [951], [951], [951], [951], [951], [951], [951], [951], [919], [919],
    [919], [919], [919], [919], [919], [919], [969], [969], [969], [969], [969], [969], [969],
    [969], [937], [937], [937], [937], [937], [937], [937], [937], [945], [945], [945], [945],
    [945]]⟩,
  ⟨8118, [[945], [945], [913], [913], [913], [913], [913], [32], [953], [32], [32], [32], [951],
    [951], [951]]⟩,
  ⟨8134, [[951], [951], [917], [917], [919], [919], [919], [32], [32], [32], [953], [953], [953],
    [953]]⟩, ⟨8150, [[953], [953], [921], [921], [921], [921]]⟩,
  ⟨8157, [[32], [32], [32], [965], [965], [965], [965], [961], [961], [965], [965], [933], [933],
    [933], [933], [929], [32], [32], [96]]⟩, ⟨8178, [[969], [969], [969]]⟩,
  ⟨8182, [[969], [969], [927], [927], [937], [937], [937], [32], [32]]⟩,
  ⟨8192, [[32], [32], [32], [32], [32], [32], [32], [32], [32], [32], [32]]⟩, ⟨8209, [[8208]]⟩,
  ⟨8215, [[32]]⟩, ⟨8228, [[46], [46, 46], [46, 46, 46]]⟩, ⟨8239, [[32]]⟩,
  ⟨8243, [[8242, 8242], [8242, 8242, 8242]]⟩, ⟨8246, [[8245, 8245], [8245, 8245, 8245]]⟩,
  ⟨8252, [[33, 33]]⟩, ⟨8254, [[32]]⟩, ⟨8263, [[63, 63], [63, 33], [33, 63]]⟩,
  ⟨8279, [[8242, 8242, 8242, 8242]]⟩, ⟨8287, [[32]]⟩, ⟨8304, [[48], [105]]⟩,
  ⟨8308, [[52], [53], [54], [55], [56], [57], [43], [8722], [61], [40], [41], [110], [48], [49],
    [50], [51], [52], [53], [54], [55], [56], [57], [43], [8722], [61], [40], [41]]⟩,
  ⟨8336, [[97], [101], [111], [120], [601], [104], [107], [108], [109], [110], [112], [115],
    [116]]⟩, ⟨8360, [[82, 115]]⟩, ⟨8448, [[97, 47, 99], [97, 47, 115], [67], [176, 67]]⟩,
  ⟨8453, [[99, 47, 111], [99, 47, 117], [400]]⟩,
  ⟨8457, [[176, 70], [103], [72], [72], [72], [104], [295], [73], [73], [76], [108]]⟩,
  ⟨8469, [[78], [78, 111]]⟩, ⟨8473, [[80], [81], [82], [82], [82]]⟩,
  ⟨8480, [[83, 77], [84, 69, 76], [84, 77]]⟩, ⟨8484, [[90]]⟩, ⟨8486, [[937]]⟩, ⟨8488, [[90]]⟩,
  ⟨8490, [[75], [65], [66], [67]]⟩, ⟨8495, [[101], [69], [70]]⟩,
  ⟨8499, [[77], [111], [1488], [1489], [1490], [1491], [105]]⟩,
  ⟨8507, [[70, 65, 88], [960], [947], [915], [928], [8721]]⟩,
  ⟨8517, [[68], [100], [101], [105], [106]]⟩,
  ⟨8528, [[49, 8260, 55], [49, 8260, 57], [49, 8260, 49, 48], [49, 8260, 51], [50, 8260, 51],
    [49, 8260, 53], [50, 8260, 53], [51, 8260, 53], [52, 8260, 53], [49, 8260, 54], [53, 8260, 54],
    [49, 8260, 56], [51, 8260, 56], [53, 8260, 56], [55, 8260, 56], [49, 8260], [73], [73, 73],
    [73, 73, 73], [73, 86], [86], [86, 73], [86, 73, 73], [86, 73, 73, 73], [73, 88], [88],
    [88, 73], [88, 73, 73], [76], [67], [68], [77], [105], [105, 105], [105, 105, 105], [105, 118],
    [118], [118, 105], [118, 105, 105], [118, 105, 105, 105], [105, 120], [120], [120, 105],
    [120, 105, 105], [108], [99], [100], [109]]⟩, ⟨8585, [[48, 8260, 51]]⟩,
  ⟨8602, [[8592], [8594]]⟩, ⟨8622, [[8596]]⟩, ⟨8653, [[8656], [8660], [8658]]⟩, ⟨8708, [[8707]]⟩,
  ⟨8713, [[8712]]⟩, ⟨8716, [[8715]]⟩, ⟨8740, [[8739]]⟩, ⟨8742, [[8741]]⟩,
  ⟨8748, [[8747, 8747], [8747, 8747, 8747]]⟩, ⟨8751, [[8750, 8750], [8750, 8750, 8750]]⟩,
  ⟨8769, [[8764]]⟩, ⟨8772, [[8771]]⟩, ⟨8775, [[8773]]⟩, ⟨8777, [[8776]]⟩, ⟨8800, [[61]]⟩,
  ⟨8802, [[8801]]⟩, ⟨8813, [[8781], [60], [62], [8804], [8805]]⟩, ⟨8820, [[8818], [8819]]⟩,
  ⟨8824, [[8822], [8823]]⟩, ⟨8832, [[8826], [8827]]⟩, ⟨8836, [[8834], [8835]]⟩,
  ⟨8840, [[8838], [8839]]⟩, ⟨8876, [[8866], [8872], [8873], [8875]]⟩,
  ⟨8928, [[8828], [8829], [8849], [8850]]⟩, ⟨8938, [[8882], [8883], [8884], [8885]]⟩,
  ⟨9001, [[12296], [12297]]⟩,
  ⟨9312, [[49], [50], [51], [52], [53], [54], [55], [56], [57], [49, 48], [49, 49], [49, 50],
    [49, 51], [49, 52], [49, 53], [49, 54], [49, 55], [49, 56], [49, 57], [50, 48], [40, 49, 41],
    [40, 50, 41], [40, 51, 41], [40, 52, 41], [40, 53, 41], [40, 54, 41], [40, 55, 41],
    [40, 56, 41], [40, 57, 41], [40, 49, 48, 41], [40, 49, 49, 41], [40, 49, 50, 41],
    [40, 49, 51, 41], [40, 49, 52, 41], [40, 49, 53, 41], [40, 49, 54, 41], [40, 49, 55, 41],
    [40, 49, 56, 41], [40, 49, 57, 41], [40, 50, 48, 41], [49, 46], [50, 46], [51, 46], [52, 46],
    [53, 46], [54, 46], [55, 46], [56, 46], [57, 46], [49, 48, 46], [49, 49, 46], [49, 50, 46],
    [49, 51, 46], [49, 52, 46], [49, 53, 46], [49, 54, 46], [49, 55, 46], [49, 56, 46],
    [49, 57, 46], [50, 48, 46], [40, 97, 41], [40, 98, 41], [40, 99, 41], [40, 100, 41],
    [40, 101, 41], [40, 102, 41], [40, 103, 41], [40, 104, 41], [40, 105, 41], [40, 106, 41],
    [40, 107, 41], [40, 108, 41], [40, 109, 41], [40, 110, 41], [40, 111, 41], [40, 112, 41],
    [40, 113, 41], [40, 114, 41], [40, 115, 41], [40, 116, 41], [40, 117, 41], [40, 118, 41],
    [40, 119, 41], [40, 120, 41], [40, 121, 41], [40, 122, 41], [65], [66], [67], [68], [69], [70],
    [71], [72], [73], [74], [75], [76], [77], [78], [79], [80], [81], [82], [83], [84], [85], [86],
    [87], [88], [89], [90], [97], [98], [99], [100], [101], [102], [103], [104], [105], [106],
    [107], [108], [109], [110], [111], [112], [113], [114], [115], [116], [117], [118], [119],
    [120], [121], [122], [48]]⟩, ⟨10764, [[8747, 8747, 8747, 8747]]⟩,
  ⟨10868, [[58, 58, 61], [61, 61], [61, 61, 61]]⟩, ⟨10972, [[10973]]⟩, ⟨11388, [[106], [86]]⟩,
  ⟨11631, [[11617]]⟩, ⟨11935, [[27597]]⟩, ⟨12019, [[40863]]⟩,
  ⟨12032, [[19968], [20008], [20022], [20031], [20057], [20101], [20108], [20128], [20154], [20799],
    [20837], [20843], [20866], [20886], [20907], [20960], [20981], [20992], [21147], [21241],
    [21269], [21274], [21304], [21313], [21340], [21353], [21378], [21430], [21448], [21475],
    [22231], [22303], [22763], [22786], [22794], [22805], [22823], [22899], [23376], [23424],
    [23544], [23567], [23586], [23608], [23662], [23665], [24027], [24037], [24049], [24062],
    [24178], [24186], [24191], [24308], [24318], [24331], [24339], [24400], [24417], [24435],
    [24515], [25096], [25142], [25163], [25903], [25908], [25991], [26007], [26020], [26041],
    [26080], [26085], [26352], [26376], [26408], [27424], [27490], [27513], [27571], [27595],
    [27604], [27611], [27663], [27668], [27700], [28779], [29226], [29238], [29243], [29247],
    [29255], [29273], [29275], [29356], [29572], [29577], [29916], [29926], [29976], [29983],
    [29992], [30000], [30091], [30098], [30326], [30333], [30382], [30399], [30446], [30683],
    [30690], [30707], [31034], [31160], [31166], [31348], [31435], [31481], [31859], [31992],
    [32566], [32593], [32650], [32701], [32769], [32780], [32786], [32819], [32895], [32905],
    [33251], [33258], [33267], [33276], [33292], [33307], [33311], [33390], [33394], [33400],
    [34381], [34411], [34880], [34892], [34915], [35198], [35211], [35282], [35328], [35895],
    [35910], [35925], [35960], [35997], [36196], [36208], [36275], [36523], [36554], [36763],
    [36784], [36789], [37009], [37193], [37318], [37324], [37329], [38263], [38272], [38428],
    [38582], [38585], [38632], [38737], [38750], [38754], [38761], [38859], [38893], [38899],
    [38913], [39080], [39131], [39135], [39318], [39321], [39340], [39592], [39640], [39647],
    [39717], [39727], [39730], [39740], [39770], [40165], [40565], [40575], [40613], [40635],
    [40643], [40653], [40657], [40697], [40701], [40718], [40723], [40736], [40763], [40778],
    [40786], [40845], [40860], [40864]]⟩, ⟨12288, [[32]]⟩, ⟨12342, [[12306]]⟩,
  ⟨12344, [[21313], [21316], [21317]]⟩, ⟨12364, [[12363]]⟩, ⟨12366, [[12365]]⟩, ⟨12368, [[12367]]⟩,
  ⟨12370, [[12369]]⟩, ⟨12372, [[12371]]⟩, ⟨12374, [[12373]]⟩, ⟨12376, [[12375]]⟩,
  ⟨12378, [[12377]]⟩, ⟨12380, [[12379]]⟩, ⟨12382, [[12381]]⟩, ⟨12384, [[12383]]⟩,
  ⟨12386, [[12385]]⟩, ⟨12389, [[12388]]⟩, ⟨12391, [[12390]]⟩, ⟨12393, [[12392]]⟩,
  ⟨12400, [[12399], [12399]]⟩, ⟨12403, [[12402], [12402]]⟩, ⟨12406, [[12405], [12405]]⟩,
  ⟨12409, [[12408], [12408]]⟩, ⟨12412, [[12411], [12411]]⟩, ⟨12436, [[12358]]⟩,
  ⟨12443, [[32], [32]]⟩, ⟨12446, [[12445], [12424, 12426]]⟩, ⟨12460, [[12459]]⟩, ⟨12462, [[12461]]⟩,
  ⟨12464, [[12463]]⟩, ⟨12466, [[12465]]⟩, ⟨12468, [[12467]]⟩, ⟨12470, [[12469]]⟩,
  ⟨12472, [[12471]]⟩, ⟨12474, [[12473]]⟩, ⟨12476, [[12475]]⟩, ⟨12478, [[12477]]⟩,
  ⟨12480, [[12479]]⟩, ⟨12482, [[12481]]⟩, ⟨12485, [[12484]]⟩, ⟨12487, [[12486]]⟩,
  ⟨12489, [[12488]]⟩, ⟨12496, [[12495], [12495]]⟩, ⟨12499, [[12498], [12498]]⟩,
  ⟨12502, [[12501], [12501]]⟩, ⟨12505, [[12504], [12504]]⟩, ⟨12508, [[12507], [12507]]⟩,
  ⟨12532, [[12454]]⟩, ⟨12535, [[12527], [12528], [12529], [12530]]⟩,
  ⟨12542, [[12541], [12467, 12488]]⟩,
  ⟨12593, [[4352], [4353], [4522], [4354], [4524], [4525], [4355], [4356], [4357], [4528], [4529],
    [4530], [4531], [4532], [4533], [4378], [4358], [4359], [4360], [4385], [4361], [4362], [4363],
    [4364], [4365], [4366], [4367], [4368], [4369], [4370], [4449], [4450], [4451], [4452], [4453],
    [4454], [4455], [4456], [4457], [4458], [4459], [4460], [4461], [4462], [4463], [4464], [4465],
    [4466], [4467], [4468], [4469], [4448], [4372], [4373], [4551], [4552], [4556], [4558], [4563],
    [4567], [4569], [4380], [4573], [4575], [4381], [4382], [4384], [4386], [4387], [4391], [4393],
    [4395], [4396], [4397], [4398], [4399], [4402], [4406], [4416], [4423], [4428], [4593], [4594],
    [4439], [4440], [4441], [4484], [4485], [4488], [4497], [4498], [4500], [4510], [4513]]⟩,
  ⟨12690, [[19968], [20108], [19977], [22235], [19978], [20013], [19979], [30002], [20057], [19993],
    [19969], [22825], [22320], [20154]]⟩,
  ⟨12800, [[40, 4352, 41], [40, 4354, 41], [40, 4355, 41], [40, 4357, 41], [40, 4358, 41],
    [40, 4359, 41], [40, 4361, 41], [40, 4363, 41], [40, 4364, 41], [40, 4366, 41], [40, 4367, 41],
    [40, 4368, 41], [40, 4369, 41], [40, 4370, 41], [40, 4352, 4449, 41], [40, 4354, 4449, 41],
    [40, 4355, 4449, 41], [40, 4357, 4449, 41], [40, 4358, 4449, 41], [40, 4359, 4449, 41],
    [40, 4361, 4449, 41], [40, 4363, 4449, 41], [40, 4364, 4449, 41], [40, 4366, 4449, 41],
    [40, 4367, 4449, 41], [40, 4368, 4449, 41], [40, 4369, 4449, 41], [40, 4370, 4449, 41],
    [40, 4364, 4462, 41], [40, 4363, 4457, 4364, 4453, 4523, 41],
    [40, 4363, 4457, 4370, 4462, 41]]⟩,
  ⟨12832, [[40, 19968, 41], [40, 20108, 41], [40, 19977, 41], [40, 22235, 41], [40, 20116, 41],
    [40, 20845, 41], [40, 19971, 41], [40, 20843, 41], [40, 20061, 41], [40, 21313, 41],
    [40, 26376, 41], [40, 28779, 41], [40, 27700, 41], [40, 26408, 41], [40, 37329, 41],
    [40, 22303, 41], [40, 26085, 41], [40, 26666, 41], [40, 26377, 41], [40, 31038, 41],
    [40, 21517, 41], [40, 29305, 41], [40, 36001, 41], [40, 31069, 41], [40, 21172, 41],
    [40, 20195, 41], [40, 21628, 41], [40, 23398, 41], [40, 30435, 41], [40, 20225, 41],
    [40, 36039, 41], [40, 21332, 41], [40, 31085, 41], [40, 20241, 41], [40, 33258, 41],
    [40, 33267, 41], [21839], [24188], [25991], [31631]]⟩,
  ⟨12880, [[80, 84, 69], [50, 49], [50, 50], [50, 51], [50, 52], [50, 53], [50, 54], [50, 55],
    [50, 56], [50, 57], [51, 48], [51, 49], [51, 50], [51, 51], [51, 52], [51, 53], [4352], [4354],
    [4355], [4357], [4358], [4359], [4361], [4363], [4364], [4366], [4367], [4368], [4369], [4370],
    [4352, 4449], [4354, 4449], [4355, 4449], [4357, 4449], [4358, 4449], [4359, 4449],
    [4361, 4449], [4363, 4449], [4364, 4449], [4366, 4449], [4367, 4449], [4368, 4449],
    [4369, 4449], [4370, 4449], [4366, 4449, 4535, 4352, 4457], [4364, 4462, 4363, 4468],
    [4363, 4462]]⟩,
  ⟨12928, [[19968], [20108], [19977], [22235], [20116], [20845], [19971], [20843], [20061], [21313],
    [26376], [28779], [27700], [26408], [37329], [22303], [26085], [26666], [26377], [31038],
    [21517], [29305], [36001], [31069], [21172], [31192], [30007], [22899], [36969], [20778],
    [21360], [27880], [38917], [20241], [20889], [27491], [19978], [20013], [19979], [24038],
    [21491], [21307], [23447], [23398], [30435], [20225], [36039], [21332], [22812], [51, 54],
    [51, 55], [51, 56], [51, 57], [52, 48], [52, 49], [52, 50], [52, 51], [52, 52], [52, 53],
    [52, 54], [52, 55], [52, 56], [52, 57], [53, 48], [49, 26376], [50, 26376], [51, 26376],
    [52, 26376], [53, 26376], [54, 26376], [55, 26376], [56, 26376], [57, 26376], [49, 48, 26376],
    [49, 49, 26376], [49, 50, 26376], [72, 103], [101, 114, 103], [101, 86], [76, 84, 68], [12450],
    [12452], [12454], [12456], [12458], [12459], [12461], [12463], [12465], [12467], [12469],
    [12471], [12473], [12475], [12477], [12479], [12481], [12484], [12486], [12488], [12490],
    [12491], [12492], [12493], [12494], [12495], [12498], [12501], [12504], [12507], [12510],
    [12511], [12512], [12513], [12514], [12516], [12518], [12520], [12521], [12522], [12523],
    [12524], [12525], [12527], [12528], [12529], [12530], [20196, 21644],
    [12450, 12495, 12540, 12488], [12450, 12523, 12501, 12449], [12450, 12531, 12504, 12450],
    [12450, 12540, 12523], [12452, 12491, 12531, 12463], [12452, 12531, 12481],
    [12454, 12457, 12531], [12456, 12473, 12463, 12540, 12488], [12456, 12540, 12459, 12540],
    [12458, 12531, 12473], [12458, 12540, 12512], [12459, 12452, 12522],
    [12459, 12521, 12483, 12488], [12459, 12525, 12522, 12540], [12459, 12525, 12531],
    [12459, 12531, 12510], [12461, 12459], [12461, 12491, 12540], [12461, 12517, 12522, 12540],
    [12461, 12523, 12479, 12540], [12461, 12525], [12461, 12525, 12463, 12521, 12512],
    [12461, 12525, 12513, 12540, 12488, 12523], [12461, 12525, 12527, 12483, 12488],
    [12463, 12521, 12512], [12463, 12521, 12512, 12488, 12531], [12463, 12523, 12475, 12452, 12525],
    [12463, 12525, 12540, 12493], [12465, 12540, 12473], [12467, 12523, 12490],
    [12467, 12540, 12507], [12469, 12452, 12463, 12523], [12469, 12531, 12481, 12540, 12512],
    [12471, 12522, 12531, 12463], [12475, 12531, 12481], [12475, 12531, 12488],
    [12479, 12540, 12473], [12486, 12471], [12488, 12523], [12488, 12531], [12490, 12494],
    [12494, 12483, 12488], [12495, 12452, 12484], [12495, 12540, 12475, 12531, 12488],
    [12495, 12540, 12484], [12495, 12540, 12524, 12523], [12498, 12450, 12473, 12488, 12523],
    [12498, 12463, 12523], [12498, 12467], [12498, 12523], [12501, 12449, 12521, 12483, 12488],
    [12501, 12451, 12540, 12488], [12501, 12483, 12471, 12455, 12523], [12501, 12521, 12531],
    [12504, 12463, 12479, 12540, 12523], [12504, 12477], [12504, 12491, 12498],
    [12504, 12523, 12484], [12504, 12531, 12473], [12504, 12540, 12471], [12504, 12540, 12479],
    [12507, 12452, 12531, 12488], [12507, 12523, 12488], [12507, 12531], [12507, 12531, 12488],
    [12507, 12540, 12523], [12507, 12540, 12531], [12510, 12452, 12463, 12525],
    [12510, 12452, 12523], [12510, 12483, 12495], [12510, 12523, 12463],
    [12510, 12531, 12471, 12519, 12531], [12511, 12463, 12525, 12531], [12511, 12522],
    [12511, 12522, 12495, 12540, 12523], [12513, 12459], [12513, 12459, 12488, 12531],
    [12513, 12540, 12488, 12523], [12516, 12540, 12488], [12516, 12540, 12523],
    [12518, 12450, 12531], [12522, 12483, 12488, 12523], [12522, 12521], [12523, 12498, 12540],
    [12523, 12540, 12501, 12523], [12524, 12512], [12524, 12531, 12488, 12465, 12531],
    [12527, 12483, 12488], [48, 28857], [49, 28857], [50, 28857], [51, 28857], [52, 28857],
    [53, 28857], [54, 28857], [55, 28857], [56, 28857], [57, 28857], [49, 48, 28857],
    [49, 49, 28857], [49, 50, 28857], [49, 51, 28857], [49, 52, 28857], [49, 53, 28857],
    [49, 54, 28857], [49, 55, 28857], [49, 56, 28857], [49, 57, 28857], [50, 48, 28857],
    [50, 49, 28857], [50, 50, 28857], [50, 51, 28857], [50, 52, 28857], [104, 80, 97], [100, 97],
    [65, 85], [98, 97, 114], [111, 86], [112, 99], [100, 109], [100, 109, 50], [100, 109, 51],
    [73, 85], [24179, 25104], [26157, 21644], [22823, 27491], [26126, 27835],
    [26666, 24335, 20250, 31038], [112, 65], [110, 65], [956, 65], [109, 65], [107, 65], [75, 66],
    [77, 66], [71, 66], [99, 97, 108], [107, 99, 97, 108], [112, 70], [110, 70], [956, 70],
    [956, 103], [109, 103], [107, 103], [72, 122], [107, 72, 122], [77, 72, 122], [71, 72, 122],
    [84, 72, 122], [956, 108], [109, 108], [100, 108], [107, 108], [102, 109], [110, 109],
    [956, 109], [109, 109], [99, 109], [107, 109], [109, 109, 50], [99, 109, 50], [109, 50],
    [107, 109, 50], [109, 109, 51], [99, 109, 51], [109, 51], [107, 109, 51], [109, 8725, 115],
    [109, 8725, 115, 50], [80, 97], [107, 80, 97], [77, 80, 97], [71, 80, 97], [114, 97, 100],
    [114, 97, 100, 8725, 115], [114, 97, 100, 8725, 115, 50], [112, 115], [110, 115], [956, 115],
    [109, 115], [112, 86], [110, 86], [956, 86], [109, 86], [107, 86], [77, 86], [112, 87],
    [110, 87], [956, 87], [109, 87], [107, 87], [77, 87], [107, 937], [77, 937], [97, 46, 109, 46],
    [66, 113], [99, 99], [99, 100], [67, 8725, 107, 103], [67, 111, 46], [100, 66], [71, 121],
    [104, 97], [72, 80], [105, 110], [75, 75], [75, 77], [107, 116], [108, 109], [108, 110],
    [108, 111, 103], [108, 120], [109, 98], [109, 105, 108], [109, 111, 108], [80, 72],
    [112, 46, 109, 46], [80, 80, 77], [80, 82], [115, 114], [83, 118], [87, 98], [86, 8725, 109],
    [65, 8725, 109], [49, 26085], [50, 26085], [51, 26085], [52, 26085], [53, 26085], [54, 26085],
    [55, 26085], [56, 26085], [57, 26085], [49, 48, 26085], [49, 49, 26085], [49, 50, 26085],
    [49, 51, 26085], [49, 52, 26085], [49, 53, 26085], [49, 54, 26085], [49, 55, 26085],
    [49, 56, 26085], [49, 57, 26085], [50, 48, 26085], [50, 49, 26085], [50, 50, 26085],
    [50, 51, 26085], [50, 52, 26085], [50, 53, 26085], [50, 54, 26085], [50, 55, 26085],
    [50, 56, 26085], [50, 57, 26085], [51, 48, 26085], [51, 49, 26085], [103, 97, 108]]⟩,
  ⟨42652, [[1098], [1100]]⟩, ⟨42864, [[42863]]⟩, ⟨42994, [[67], [70], [81]]⟩,
  ⟨43000, [[294], [339]]⟩, ⟨43868, [[42791], [43831], [619], [43858]]⟩, ⟨43881, [[653]]⟩,
  ⟨63744, [[35912], [26356], [36554], [36040], [28369], [20018], [21477], [40860], [40860], [22865],
    [37329], [21895], [22856], [25078], [30313], [32645], [34367], [34746], [35064], [37007],
    [27138], [27931], [28889], [29662], [33853], [37226], [39409], [20098], [21365], [27396],
    [29211], [34349], [40478], [23888], [28651], [34253], [35172], [25289], [33240], [34847],
    [24266], [26391], [28010], [29436], [37070], [20358], [20919], [21214], [25796], [27347],
    [29200], [30439], [32769], [34310], [34396], [36335], [38706], [39791], [40442], [30860],
    [31103], [32160], [33737], [37636], [40575], [35542], [22751], [24324], [31840], [32894],
    [29282], [30922], [36034], [38647], [22744], [23650], [27155], [28122], [28431], [32047],
    [32311], [38475], [21202], [32907], [20956], [20940], [31260], [32190], [33777], [38517],
    [35712], [25295], [27138], [35582], [20025], [23527], [24594], [29575], [30064], [21271],
    [30971], [20415], [24489], [19981], [27852], [25976], [32034], [21443], [22622], [30465],
    [33865], [35498], [27578], [36784], [27784], [25342], [33509], [25504], [30053], [20142],
    [20841], [20937], [26753], [31975], [33391], [35538], [37327], [21237], [21570], [22899],
    [24300], [26053], [28670], [31018], [38317], [39530], [40599], [40654], [21147], [26310],
    [27511], [36706], [24180], [24976], [25088], [25754], [28451], [29001], [29833], [31178],
    [32244], [32879], [36646], [34030], [36899], [37706], [21015], [21155], [21693], [28872],
    [35010], [35498], [24265], [24565], [25467], [27566], [31806], [29557], [20196], [22265],
    [23527], [23994], [24604], [29618], [29801], [32666], [32838], [37428], [38646], [38728],
    [38936], [20363], [31150], [37300], [38584], [24801], [20102], [20698], [23534], [23615],
    [26009], [27138], [29134], [30274], [34044], [36988], [40845], [26248], [38446], [21129],
    [26491], [26611], [27969], [28316], [29705], [30041], [30827], [32016], [39006], [20845],
    [25134], [38520], [20523], [23833], [28138], [36650], [24459], [24900], [26647], [29575],
    [38534], [21033], [21519], [23653], [26131], [26446], [26792], [27877], [29702], [30178],
    [32633], [35023], [35041], [37324], [38626], [21311], [28346], [21533], [29136], [29848],
    [34298], [38563], [40023], [40607], [26519], [28107], [33256], [31435], [31520], [31890],
    [29376], [28825], [35672], [20160], [33590], [21050], [20999], [24230], [25299], [31958],
    [23429], [27934], [26292], [36667], [34892], [38477], [35211], [24275], [20800], [21952]]⟩,
  ⟨64016, [[22618]]⟩, ⟨64018, [[26228]]⟩,
  ⟨64021, [[20958], [29482], [30410], [31036], [31070], [31077], [31119], [38742], [31934],
    [32701]]⟩, ⟨64032, [[34322]]⟩, ⟨64034, [[35576]]⟩, ⟨64037, [[36920], [37117]]⟩,
  ⟨64042, [[39151], [39164], [39208], [40372], [37086], [38583], [20398], [20711], [20813], [21193],
    [21220], [21329], [21917], [22022], [22120], [22592], [22696], [23652], [23662], [24724],
    [24936], [24974], [25074], [25935], [26082], [26257], [26757], [28023], [28186], [28450],
    [29038], [29227], [29730], [30865], [31038], [31049], [31048], [31056], [31062], [31069],
    [31117], [31118], [31296], [31361], [31680], [32244], [32265], [32321], [32626], [32773],
    [33261], [33401], [33401], [33879], [35088], [35222], [35585], [35641], [36051], [36104],
    [36790], [36920], [38627], [38911], [38971], [24693], [148206], [33304]]⟩,
  ⟨64112, [[20006], [20917], [20840], [20352], [20805], [20864], [21191], [21242], [21917], [21845],
    [21913], [21986], [22618], [22707], [22852], [22868], [23138], [23336], [24274], [24281],
    [24425], [24493], [24792], [24910], [24840], [24974], [24928], [25074], [25140], [25540],
    [25628], [25682], [25942], [26228], [26391], [26395], [26454], [27513], [27578], [27969],
    [28379], [28363], [28450], [28702], [29038], [30631], [29237], [29359], [29482], [29809],
    [29958], [30011], [30237], [30239], [30410], [30427], [30452], [30538], [30528], [30924],
    [31409], [31680], [31867], [32091], [32244], [32574], [32773], [33618], [33775], [34681],
    [35137], [35206], [35222], [35519], [35576], [35531], [35585], [35582], [35565], [35641],
    [35722], [36104], [36664], [36978], [37273], [37494], [38524], [38627], [38742], [38875],
    [38911], [38923], [38971], [39698], [40860], [141386], [141380], [144341], [15261], [16408],
    [16441], [152137], [154832], [163539], [40771], [40846]]⟩,
  ⟨64256, [[102, 102], [102, 105], [102, 108], [102, 102, 105], [102, 102, 108], [115, 116],
    [115, 116]]⟩, ⟨64275, [[1396, 1398], [1396, 1381], [1396, 1387], [1406, 1398], [1396, 1389]]⟩,
  ⟨64285, [[1497]]⟩,
  ⟨64287, [[1522], [1506], [1488], [1491], [1492], [1499], [1500], [1501], [1512], [1514], [43],
    [1513], [1513], [1513], [1513], [1488], [1488], [1488], [1489], [1490], [1491], [1492], [1493],
    [1494]]⟩, ⟨64312, [[1496], [1497], [1498], [1499], [1500]]⟩, ⟨64318, [[1502]]⟩,
  ⟨64320, [[1504], [1505]]⟩, ⟨64323, [[1507], [1508]]⟩,
  ⟨64326, [[1510], [1511], [1512], [1513], [1514], [1493], [1489], [1499], [1508], [1488, 1500],
    [1649], [1649], [1659], [1659], [1659], [1659], [1662], [1662], [1662], [1662], [1664], [1664],
    [1664], [1664], [1658], [1658], [1658], [1658], [1663], [1663], [1663], [1663], [1657], [1657],
    [1657], [1657], [1700], [1700], [1700], [1700], [1702], [1702], [1702], [1702], [1668], [1668],
    [1668], [1668], [1667], [1667], [1667], [1667], [1670], [1670], [1670], [1670], [1671], [1671],
    [1671], [1671], [1677], [1677], [1676], [1676], [1678], [1678], [1672], [1672], [1688], [1688],
    [1681], [1681], [1705], [1705], [1705], [1705], [1711], [1711], [1711], [1711], [1715], [1715],
    [1715], [1715], [1713], [1713], [1713], [1713], [1722], [1722], [1723], [1723], [1723], [1723],
    [1749], [1749], [1729], [1729], [1729], [1729], [1726], [1726], [1726], [1726], [1746], [1746],
    [1746], [1746]]⟩,
  ⟨64467, [[1709], [1709], [1709], [1709], [1735], [1735], [1734], [1734], [1736], [1736],
    [1735, 1652], [1739], [1739], [1733], [1733], [1737], [1737], [1744], [1744], [1744], [1744],
    [1609], [1609], [1610, 1575], [1610, 1575], [1610, 1749], [1610, 1749], [1610, 1608],
    [1610, 1608], [1610, 1735], [1610, 1735], [1610, 1734], [1610, 1734], [1610, 1736],
    [1610, 1736], [1610, 1744], [1610, 1744], [1610, 1744], [1610, 1609], [1610, 1609],
    [1610, 1609], [1740], [1740], [1740], [1740], [1610, 1580], [1610, 1581], [1610, 1605],
    [1610, 1609], [1610, 1610], [1576, 1580], [1576, 1581], [1576, 1582], [1576, 1605],
    [1576, 1609], [1576, 1610], [1578, 1580], [1578, 1581], [1578, 1582], [1578, 1605],
    [1578, 1609], [1578, 1610], [1579, 1580], [1579, 1605], [1579, 1609], [1579, 1610],
    [1580, 1581], [1580, 1605], [1581, 1580], [1581, 1605], [1582, 1580], [1582, 1581],
    [1582, 1605], [1587, 1580], [1587, 1581], [1587, 1582], [1587, 1605], [1589, 1581],
    [1589, 1605], [1590, 1580], [1590, 1581], [1590, 1582], [1590, 1605], [1591, 1581],
    [1591, 1605], [1592, 1605], [1593, 1580], [1593, 1605], [1594, 1580], [1594, 1605],
    [1601, 1580], [1601, 1581], [1601, 1582], [1601, 1605], [1601, 1609], [1601, 1610],
    [1602, 1581], [1602, 1605], [1602, 1609], [1602, 1610], [1603, 1575], [1603, 1580],
    [1603, 1581], [1603, 1582], [1603, 1604], [1603, 1605], [1603, 1609], [1603, 1610],
    [1604, 1580], [1604, 1581], [1604, 1582], [1604, 1605], [1604, 1609], [1604, 1610],
    [1605, 1580], [1605, 1581], [1605, 1582], [1605, 1605], [1605, 1609], [1605, 1610],
    [1606, 1580], [1606, 1581], [1606, 1582], [1606, 1605], [1606, 1609], [1606, 1610],
    [1607, 1580], [1607, 1605], [1607, 1609], [1607, 1610], [1610, 1580], [1610, 1581],
    [1610, 1582], [1610, 1605], [1610, 1609], [1610, 1610], [1584], [1585], [1609], [32], [32],
    [32], [32], [32], [32], [1610, 1585], [1610, 1586], [1610, 1605], [1610, 1606], [1610, 1609],
    [1610, 1610], [1576, 1585], [1576, 1586], [1576, 1605], [1576, 1606], [1576, 1609],
    [1576, 1610], [1578, 1585], [1578, 1586], [1578, 1605], [1578, 1606], [1578, 1609],
    [1578, 1610], [1579, 1585], [1579, 1586], [1579, 1605], [1579, 1606], [1579, 1609],
    [1579, 1610], [1601, 1609], [1601, 1610], [1602, 1609], [1602, 1610], [1603, 1575],
    [1603, 1604], [1603, 1605], [1603, 1609], [1603, 1610], [1604, 1605], [1604, 1609],
    [1604, 1610], [1605, 1575], [1605, 1605], [1606, 1585], [1606, 1586], [1606, 1605],
    [1606, 1606], [1606, 1609], [1606, 1610], [1609], [1610, 1585], [1610, 1586], [1610, 1605],
    [1610, 1606], [1610, 1609], [1610, 1610], [1610, 1580], [1610, 1581], [1610, 1582],
    [1610, 1605], [1610, 1607], [1576, 1580], [1576, 1581], [1576, 1582], [1576, 1605],
    [1576, 1607], [1578, 1580], [1578, 1581], [1578, 1582], [1578, 1605], [1578, 1607],
    [1579, 1605], [1580, 1581], [1580, 1605], [1581, 1580], [1581, 1605], [1582, 1580],
    [1582, 1605], [1587, 1580], [1587, 1581], [1587, 1582], [1587, 1605], [1589, 1581],
    [1589, 1582], [1589, 1605], [1590, 1580], [1590, 1581], [1590, 1582], [1590, 1605],
    [1591, 1581], [1592, 1605], [1593, 1580], [1593, 1605], [1594, 1580], [1594, 1605],
    [1601, 1580], [1601, 1581], [1601, 1582], [1601, 1605], [1602, 1581], [1602, 1605],
    [1603, 1580], [1603, 1581], [1603, 1582], [1603, 1604], [1603, 1605], [1604, 1580],
    [1604, 1581], [1604, 1582], [1604, 1605], [1604, 1607], [1605, 1580], [1605, 1581],
    [1605, 1582], [1605, 1605], [1606, 1580], [1606, 1581], [1606, 1582], [1606, 1605],
    [1606, 1607], [1607, 1580], [1607, 1605], [1607], [1610, 1580], [1610, 1581], [1610, 1582],
    [1610, 1605], [1610, 1607], [1610, 1605], [1610, 1607], [1576, 1605], [1576, 1607],
    [1578, 1605], [1578, 1607], [1579, 1605], [1579, 1607], [1587, 1605], [1587, 1607],
    [1588, 1605], [1588, 1607], [1603, 1604], [1603, 1605], [1604, 1605], [1606, 1605],
    [1606, 1607], [1610, 1605], [1610, 1607], [1600], [1600], [1600], [1591, 1609], [1591, 1610],
    [1593, 1609], [1593, 1610], [1594, 1609], [1594, 1610], [1587, 1609], [1587, 1610],
    [1588, 1609], [1588, 1610], [1581, 1609], [1581, 1610], [1580, 1609], [1580, 1610],
    [1582, 1609], [1582, 1610], [1589, 1609], [1589, 1610], [1590, 1609], [1590, 1610],
    [1588, 1580], [1588, 1581], [1588, 1582], [1588, 1605], [1588, 1585], [1587, 1585],
    [1589, 1585], [1590, 1585], [1591, 1609], [1591, 1610], [1593, 1609], [1593, 1610],
    [1594, 1609], [1594, 1610], [1587, 1609], [1587, 1610], [1588, 1609], [1588, 1610],
    [1581, 1609], [1581, 1610], [1580, 1609], [1580, 1610], [1582, 1609], [1582, 1610],
    [1589, 1609], [1589, 1610], [1590, 1609], [1590, 1610], [1588, 1580], [1588, 1581],
    [1588, 1582], [1588, 1605], [1588, 1585], [1587, 1585], [1589, 1585], [1590, 1585],
    [1588, 1580], [1588, 1581], [1588, 1582], [1588, 1605], [1587, 1607], [1588, 1607],
    [1591, 1605], [1587, 1580], [1587, 1581], [1587, 1582], [1588, 1580], [1588, 1581],
    [1588, 1582], [1591, 1605], [1592, 1605], [1575], [1575]]⟩,
  ⟨64848, [[1578, 1580, 1605], [1578, 1581, 1580], [1578, 1581, 1580], [1578, 1581, 1605],
    [1578, 1582, 1605], [1578, 1605, 1580], [1578, 1605, 1581], [1578, 1605, 1582],
    [1580, 1605, 1581], [1580, 1605, 1581], [1581, 1605, 1610], [1581, 1605, 1609],
    [1587, 1581, 1580], [1587, 1580, 1581], [1587, 1580, 1609], [1587, 1605, 1581],
    [1587, 1605, 1581], [1587, 1605, 1580], [1587, 1605, 1605], [1587, 1605, 1605],
    [1589, 1581, 1581], [1589, 1581, 1581], [1589, 1605, 1605], [1588, 1581, 1605],
    [1588, 1581, 1605], [1588, 1580, 1610], [1588, 1605, 1582], [1588, 1605, 1582],
    [1588, 1605, 1605], [1588, 1605, 1605], [1590, 1581, 1609], [1590, 1582, 1605],
    [1590, 1582, 1605], [1591, 1605, 1581], [1591, 1605, 1581], [1591, 1605, 1605],
    [1591, 1605, 1610], [1593, 1580, 1605], [1593, 1605, 1605], [1593, 1605, 1605],
    [1593, 1605, 1609], [1594, 1605, 1605], [1594, 1605, 1610], [1594, 1605, 1609],
    [1601, 1582, 1605], [1601, 1582, 1605], [1602, 1605, 1581], [1602, 1605, 1605],
    [1604, 1581, 1605], [1604, 1581, 1610], [1604, 1581, 1609], [1604, 1580, 1580],
    [1604, 1580, 1580], [1604, 1582, 1605], [1604, 1582, 1605], [1604, 1605, 1581],
    [1604, 1605, 1581], [1605, 1581, 1580], [1605, 1581, 1605], [1605, 1581, 1610],
    [1605, 1580, 1581], [1605, 1580, 1605], [1605, 1582, 1580], [1605, 1582, 1605]]⟩,
  ⟨64914, [[1605, 1580, 1582], [1607, 1605, 1580], [1607, 1605, 1605], [1606, 1581, 1605],
    [1606, 1581, 1609], [1606, 1580, 1605], [1606, 1580, 1605], [1606, 1580, 1609],
    [1606, 1605, 1610], [1606, 1605, 1609], [1610, 1605, 1605], [1610, 1605, 1605],
    [1576, 1582, 1610], [1578, 1580, 1610], [1578, 1580, 1609], [1578, 1582, 1610],
    [1578, 1582, 1609], [1578, 1605, 1610], [1578, 1605, 1609], [1580, 1605, 1610],
    [1580, 1581, 1609], [1580, 1605, 1609], [1587, 1582, 1609], [1589, 1581, 1610],
    [1588, 1581, 1610], [1590, 1581, 1610], [1604, 1580, 1610], [1604, 1605, 1610],
    [1610, 1581, 1610], [1610, 1580, 1610], [1610, 1605, 1610], [1605, 1605, 1610],
    [1602, 1605, 1610], [1606, 1581, 1610], [1602, 1605, 1581], [1604, 1581, 1605],
    [1593, 1605, 1610], [1603, 1605, 1610], [1606, 1580, 1581], [1605, 1582, 1610],
    [1604, 1580, 1605], [1603, 1605, 1605], [1604, 1580, 1605], [1606, 1580, 1581],
    [1580, 1581, 1610], [1581, 1580, 1610], [1605, 1580, 1610], [1601, 1605, 1610],
    [1576, 1581, 1610], [1603, 1605, 1605], [1593, 1580, 1605], [1589, 1605, 1605],
    [1587, 1582, 1610], [1606, 1580, 1610]]⟩,
  ⟨65008, [[1589, 1604, 1746], [1602, 1604, 1746], [1575, 1604, 1604, 1607],
    [1575, 1603, 1576, 1585], [1605, 1581, 1605, 1583], [1589, 1604, 1593, 1605],
    [1585, 1587, 1608, 1604], [1593, 1604, 1610, 1607], [1608, 1587, 1604, 1605],
    [1589, 1604, 1609],
    [1589, 1604, 1609, 32, 1575, 1604, 1604, 1607, 32, 1593, 1604, 1610, 1607, 32, 1608, 1587,
      1604, 1605],
    [1580, 1604, 32, 1580, 1604, 1575, 1604, 1607], [1585, 1740, 1575, 1604]]⟩,
  ⟨65040, [[44], [12289], [12290], [58], [59], [33], [63], [12310], [12311], [46, 46, 46]]⟩,
  ⟨65072, [[46, 46], [8212], [8211], [95], [95], [40], [41], [123], [125], [12308], [12309],
    [12304], [12305], [12298], [12299], [12296], [12297], [12300], [12301], [12302], [12303]]⟩,
  ⟨65095, [[91], [93], [32], [32], [32], [32], [95], [95], [95], [44], [12289], [46]]⟩,
  ⟨65108, [[59], [58], [63], [33], [8212], [40], [41], [123], [125], [12308], [12309], [35], [38],
    [42], [43], [45], [60], [62], [61]]⟩, ⟨65128, [[92], [36], [37], [64]]⟩,
  ⟨65136, [[32], [1600], [32]]⟩, ⟨65140, [[32]]⟩,
  ⟨65142, [[32], [1600], [32], [1600], [32], [1600], [32], [1600], [32], [1600], [1569], [1575],
    [1575], [1575], [1575], [1608], [1608], [1575], [1575], [1610], [1610], [1610], [1610], [1575],
    [1575], [1576], [1576], [1576], [1576], [1577], [1577], [1578], [1578], [1578], [1578], [1579],
    [1579], [1579], [1579], [1580], [1580], [1580], [1580], [1581], [1581], [1581], [1581], [1582],
    [1582], [1582], [1582], [1583], [1583], [1584], [1584], [1585], [1585], [1586], [1586], [1587],
    [1587], [1587], [1587], [1588], [1588], [1588], [1588], [1589], [1589], [1589], [1589], [1590],
    [1590], [1590], [1590], [1591], [1591], [1591], [1591], [1592], [1592], [1592], [1592], [1593],
    [1593], [1593], [1593], [1594], [1594], [1594], [1594], [1601], [1601], [1601], [1601], [1602],
    [1602], [1602], [1602], [1603], [1603], [1603], [1603], [1604], [1604], [1604], [1604], [1605],
    [1605], [1605], [1605], [1606], [1606], [1606], [1606], [1607], [1607], [1607], [1607], [1608],
    [1608], [1609], [1609], [1610], [1610], [1610], [1610], [1604, 1575], [1604, 1575],
    [1604, 1575], [1604, 1575], [1604, 1575], [1604, 1575], [1604, 1575], [1604, 1575]]⟩,
  ⟨65281, [[33], [34], [35], [36], [37], [38], [39], [40], [41], [42], [43], [44], [45], [46], [47],
    [48], [49], [50], [51], [52], [53], [54], [55], [56], [57], [58], [59], [60], [61], [62], [63],
    [64], [65], [66], [67], [68], [69], [70], [71], [72], [73], [74], [75], [76], [77], [78], [79],
    [80], [81], [82], [83], [84], [85], [86], [87], [88], [89], [90], [91], [92], [93], [94], [95],
    [96], [97], [98], [99], [100], [101], [102], [103], [104], [105], [106], [107], [108], [109],
    [110], [111], [112], [113], [114], [115], [116], [117], [118], [119], [120], [121], [122],
    [123], [124], [125], [126], [10629], [10630], [12290], [12300], [12301], [12289], [12539],
    [12530], [12449], [12451], [12453], [12455], [12457], [12515], [12517], [12519], [12483],
    [12540], [12450], [12452], [12454], [12456], [12458], [12459], [12461], [12463], [12465],
    [12467], [12469], [12471], [12473], [12475], [12477], [12479], [12481], [12484], [12486],
    [12488], [12490], [12491], [12492], [12493], [12494], [12495], [12498], [12501], [12504],
    [12507], [12510], [12511], [12512], [12513], [12514], [12516], [12518], [12520], [12521],
    [12522], [12523], [12524], [12525], [12527], [12531], [], [], [4448], [4352], [4353], [4522],
    [4354], [4524], [4525], [4355], [4356], [4357], [4528], [4529], [4530], [4531], [4532], [4533],
    [4378], [4358], [4359], [4360], [4385], [4361], [4362], [4363], [4364], [4365], [4366], [4367],
    [4368], [4369], [4370]]⟩, ⟨65474, [[4449], [4450], [4451], [4452], [4453], [4454]]⟩,
  ⟨65482, [[4455], [4456], [4457], [4458], [4459], [4460]]⟩,
  ⟨65490, [[4461], [4462], [4463], [4464], [4465], [4466]]⟩, ⟨65498, [[4467], [4468], [4469]]⟩,
  ⟨65504, [[162], [163], [172], [32], [166], [165], [8361]]⟩,
  ⟨65512, [[9474], [8592], [8593], [8594], [8595], [9632], [9675]]⟩,
  ⟨67457, [[720], [721], [230], [665], [595]]⟩,
  ⟨67463, [[675], [43878], [677], [676], [598], [599], [7569], [600], [606], [681], [612], [610],
    [608], [667], [295], [668], [615], [644], [682], [683], [620], [122628], [42894], [622],
    [122629], [654], [122630], [248], [630], [631], [113], [634], [122632], [637], [638], [640],
    [680], [678], [43879], [679], [648], [11377]]⟩,
  ⟨67506, [[655], [673], [674], [664], [448], [449], [450], [122634], [122654]]⟩,
  ⟨69786, [[69785]]⟩, ⟨69788, [[69787]]⟩, ⟨69803, [[69797]]⟩,
  ⟨69934, [[69937, 69927], [69938, 69927]]⟩, ⟨70475, [[70471, 70462], [70471, 70487]]⟩,
  ⟨70843, [[70841, 70842], [70841, 70832]]⟩, ⟨70846, [[70841, 70845]]⟩,
  ⟨71098, [[71096, 71087], [71097, 71087]]⟩, ⟨71992, [[71989, 71984]]⟩,
  ⟨119134, [[119127], [119128], [119128], [119128], [119128], [119128], [119128]]⟩,
  ⟨119227, [[119225], [119226], [119225], [119226], [119225], [119226]]⟩,
  ⟨119808, [[65], [66], [67], [68], [69], [70], [71], [72], [73], [74], [75], [76], [77], [78],
    [79], [80], [81], [82], [83], [84], [85], [86], [87], [88], [89], [90], [97], [98], [99], [100],
    [101], [102], [103], [104], [105], [106], [107], [108], [109], [110], [111], [112], [113],
    [114], [115], [116], [117], [118], [119], [120], [121], [122], [65], [66], [67], [68], [69],
    [70], [71], [72], [73], [74], [75], [76], [77], [78], [79], [80], [81], [82], [83], [84], [85],
    [86], [87], [88], [89], [90], [97], [98], [99], [100], [101], [102], [103]]⟩,
  ⟨119894, [[105], [106], [107], [108], [109], [110], [111], [112], [113], [114], [115], [116],
    [117], [118], [119], [120], [121], [122], [65], [66], [67], [68], [69], [70], [71], [72], [73],
    [74], [75], [76], [77], [78], [79], [80], [81], [82], [83], [84], [85], [86], [87], [88], [89],
    [90], [97], [98], [99], [100], [101], [102], [103], [104], [105], [106], [107], [108], [109],
    [110], [111], [112], [113], [114], [115], [116], [117], [118], [119], [120], [121], [122],
    [65]]⟩, ⟨119966, [[67], [68]]⟩, ⟨119970, [[71]]⟩, ⟨119973, [[74], [75]]⟩,
  ⟨119977, [[78], [79], [80], [81]]⟩,
  ⟨119982, [[83], [84], [85], [86], [87], [88], [89], [90], [97], [98], [99], [100]]⟩,
  ⟨119995, [[102]]⟩, ⟨119997, [[104], [105], [106], [107], [108], [109], [110]]⟩,
  ⟨120005, [[112], [113], [114], [115], [116], [117], [118], [119], [120], [121], [122], [65], [66],
    [67], [68], [69], [70], [71], [72], [73], [74], [75], [76], [77], [78], [79], [80], [81], [82],
    [83], [84], [85], [86], [87], [88], [89], [90], [97], [98], [99], [100], [101], [102], [103],
    [104], [105], [106], [107], [108], [109], [110], [111], [112], [113], [114], [115], [116],
    [117], [118], [119], [120], [121], [122], [65], [66]]⟩, ⟨120071, [[68], [69], [70], [71]]⟩,
  ⟨120077, [[74], [75], [76], [77], [78], [79], [80], [81]]⟩,
  ⟨120086, [[83], [84], [85], [86], [87], [88], [89]]⟩,
  ⟨120094, [[97], [98], [99], [100], [101], [102], [103], [104], [105], [106], [107], [108], [109],
    [110], [111], [112], [113], [114], [115], [116], [117], [118], [119], [120], [121], [122], [65],
    [66]]⟩, ⟨120123, [[68], [69], [70], [71]]⟩, ⟨120128, [[73], [74], [75], [76], [77]]⟩,
  ⟨120134, [[79]]⟩, ⟨120138, [[83], [84], [85], [86], [87], [88], [89]]⟩,
  ⟨120146, [[97], [98], [99], [100], [101], [102], [103], [104], [105], [106], [107], [108], [109],
    [110], [111], [112], [113], [114], [115], [116], [117], [118], [119], [120], [121], [122], [65],
    [66], [67], [68], [69], [70], [71], [72], [73], [74], [75], [76], [77], [78], [79], [80], [81],
    [82], [83], [84], [85], [86], [87], [88], [89], [90], [97], [98], [99], [100], [101], [102],
    [103], [104], [105], [106], [107], [108], [109], [110], [111], [112], [113], [114], [115],
    [116], [117], [118], [119], [120], [121], [122], [65], [66], [67], [68], [69], [70], [71], [72],
    [73], [74], [75], [76], [77], [78], [79], [80], [81], [82], [83], [84], [85], [86], [87], [88],
    [89], [90], [97], [98], [99], [100], [101], [102], [103], [104], [105], [106], [107], [108],
    [109], [110], [111], [112], [113], [114], [115], [116], [117], [118], [119], [120], [121],
    [122], [65], [66], [67], [68], [69], [70], [71], [72], [73], [74], [75], [76], [77], [78], [79],
    [80], [81], [82], [83], [84], [85], [86], [87], [88], [89], [90], [97], [98], [99], [100],
    [101], [102], [103], [104], [105], [106], [107], [108], [109], [110], [111], [112], [113],
    [114], [115], [116], [117], [118], [119], [120], [121], [122], [65], [66], [67], [68], [69],
    [70], [71], [72], [73], [74], [75], [76], [77], [78], [79], [80], [81], [82], [83], [84], [85],
    [86], [87], [88], [89], [90], [97], [98], [99], [100], [101], [102], [103], [104], [105], [106],
    [107], [108], [109], [110], [111], [112], [113], [114], [115], [116], [117], [118], [119],
    [120], [121], [122], [65], [66], [67], [68], [69], [70], [71], [72], [73], [74], [75], [76],
    [77], [78], [79], [80], [81], [82], [83], [84], [85], [86], [87], [88], [89], [90], [97], [98],
    [99], [100], [101], [102], [103], [104], [105], [106], [107], [108], [109], [110], [111], [112],
    [113], [114], [115], [116], [117], [118], [119], [120], [121], [122], [65], [66], [67], [68],
    [69], [70], [71], [72], [73], [74], [75], [76], [77], [78], [79], [80], [81], [82], [83], [84],
    [85], [86], [87], [88], [89], [90], [97], [98], [99], [100], [101], [102], [103], [104], [105],
    [106], [107], [108], [109], [110], [111], [112], [113], [114], [115], [116], [117], [118],
    [119], [120], [121], [122], [305], [567]]⟩,
  ⟨120488, [[913], [914], [915], [916], [917], [918], [919], [920], [921], [922], [923], [924],
    [925], [926], [927], [928], [929], [920], [931], [932], [933], [934], [935], [936], [937],
    [8711], [945], [946], [947], [948], [949], [950], [951], [952], [953], [954], [955], [956],
    [957], [958], [959], [960], [961], [962], [963], [964], [965], [966], [967], [968], [969],
    [8706], [949], [952], [954], [966], [961], [960], [913], [914], [915], [916], [917], [918],
    [919], [920], [921], [922], [923], [924], [925], [926], [927], [928], [929], [920], [931],
    [932], [933], [934], [935], [936], [937], [8711], [945], [946], [947], [948], [949], [950],
    [951], [952], [953], [954], [955], [956], [957], [958], [959], [960], [961], [962], [963],
    [964], [965], [966], [967], [968], [969], [8706], [949], [952], [954], [966], [961], [960],
    [913], [914], [915], [916], [917], [918], [919], [920], [921], [922], [923], [924], [925],
    [926], [927], [928], [929], [920], [931], [932], [933], [934], [935], [936], [937], [8711],
    [945], [946], [947], [948], [949], [950], [951], [952], [953], [954], [955], [956], [957],
    [958], [959], [960], [961], [962], [963], [964], [965], [966], [967], [968], [969], [8706],
    [949], [952], [954], [966], [961], [960], [913], [914], [915], [916], [917], [918], [919],
    [920], [921], [922], [923], [924], [925], [926], [927], [928], [929], [920], [931], [932],
    [933], [934], [935], [936], [937], [8711], [945], [946], [947], [948], [949], [950], [951],
    [952], [953], [954], [955], [956], [957], [958], [959], [960], [961], [962], [963], [964],
    [965], [966], [967], [968], [969], [8706], [949], [952], [954], [966], [961], [960], [913],
    [914], [915], [916], [917], [918], [919], [920], [921], [922], [923], [924], [925], [926],
    [927], [928], [929], [920], [931], [932], [933], [934], [935], [936], [937], [8711], [945],
    [946], [947], [948], [949], [950], [951], [952], [953], [954], [955], [956], [957], [958],
    [959], [960], [961], [962], [963], [964], [965], [966], [967], [968], [969], [8706], [949],
    [952], [954], [966], [961], [960], [988], [989]]⟩,
  ⟨120782, [[48], [49], [50], [51], [52], [53], [54], [55], [56], [57], [48], [49], [50], [51],
    [52], [53], [54], [55], [56], [57], [48], [49], [50], [51], [52], [53], [54], [55], [56], [57],
    [48], [49], [50], [51], [52], [53], [54], [55], [56], [57], [48], [49], [50], [51], [52], [53],
    [54], [55], [56], [57]]⟩, ⟨126464, [[1575], [1576], [1580], [1583]]⟩,
  ⟨126469, [[1608], [1586], [1581], [1591], [1610], [1603], [1604], [1605], [1606], [1587], [1593],
    [1601], [1589], [1602], [1585], [1588], [1578], [1579], [1582], [1584], [1590], [1592], [1594],
    [1646], [1722], [1697], [1647]]⟩, ⟨126497, [[1576], [1580]]⟩, ⟨126500, [[1607]]⟩,
  ⟨126503, [[1581]]⟩,
  ⟨126505, [[1610], [1603], [1604], [1605], [1606], [1587], [1593], [1601], [1589], [1602]]⟩,
  ⟨126516, [[1588], [1578], [1579], [1582]]⟩, ⟨126521, [[1590]]⟩, ⟨126523, [[1594]]⟩,
  ⟨126530, [[1580]]⟩, ⟨126535, [[1581]]⟩, ⟨126537, [[1610]]⟩, ⟨126539, [[1604]]⟩,
  ⟨126541, [[1606], [1587], [1593]]⟩, ⟨126545, [[1589], [1602]]⟩, ⟨126548, [[1588]]⟩,
  ⟨126551, [[1582]]⟩, ⟨126553, [[1590]]⟩, ⟨126555, [[1594]]⟩, ⟨126557, [[1722]]⟩,
  ⟨126559, [[1647]]⟩, ⟨126561, [[1576], [1580]]⟩, ⟨126564, [[1607]]⟩,
  ⟨126567, [[1581], [1591], [1610], [1603]]⟩,
  ⟨126572, [[1605], [1606], [1587], [1593], [1601], [1589], [1602]]⟩,
  ⟨126580, [[1588], [1578], [1579], [1582]]⟩, ⟨126585, [[1590], [1592], [1594], [1646]]⟩,
  ⟨126590, [[1697]]⟩,
  ⟨126592, [[1575], [1576], [1580], [1583], [1607], [1608], [1586], [1581], [1591], [1610]]⟩,
  ⟨126603, [[1604], [1605], [1606], [1587], [1593], [1601], [1589], [1602], [1585], [1588], [1578],
    [1579], [1582], [1584], [1590], [1592], [1594]]⟩, ⟨126625, [[1576], [1580], [1583]]⟩,
  ⟨126629, [[1608], [1586], [1581], [1591], [1610]]⟩,
  ⟨126635, [[1604], [1605], [1606], [1587], [1593], [1601], [1589], [1602], [1585], [1588], [1578],
    [1579], [1582], [1584], [1590], [1592], [1594]]⟩,
  ⟨127232, [[48, 46], [48, 44], [49, 44], [50, 44], [51, 44], [52, 44], [53, 44], [54, 44],
    [55, 44], [56, 44], [57, 44]]⟩,
  ⟨127248, [[40, 65, 41], [40, 66, 41], [40, 67, 41], [40, 68, 41], [40, 69, 41], [40, 70, 41],
    [40, 71, 41], [40, 72, 41], [40, 73, 41], [40, 74, 41], [40, 75, 41], [40, 76, 41],
    [40, 77, 41], [40, 78, 41], [40, 79, 41], [40, 80, 41], [40, 81, 41], [40, 82, 41],
    [40, 83, 41], [40, 84, 41], [40, 85, 41], [40, 86, 41], [40, 87, 41], [40, 88, 41],
    [40, 89, 41], [40, 90, 41], [12308, 83, 12309], [67], [82], [67, 68], [87, 90]]⟩,
  ⟨127280, [[65], [66], [67], [68], [69], [70], [71], [72], [73], [74], [75], [76], [77], [78],
    [79], [80], [81], [82], [83], [84], [85], [86], [87], [88], [89], [90], [72, 86], [77, 86],
    [83, 68], [83, 83], [80, 80, 86], [87, 67]]⟩, ⟨127338, [[77, 67], [77, 68], [77, 82]]⟩,
  ⟨127376, [[68, 74]]⟩, ⟨127488, [[12411, 12363], [12467, 12467], [12469]]⟩,
  ⟨127504, [[25163], [23383], [21452], [12486], [20108], [22810], [35299], [22825], [20132],
    [26144], [28961], [26009], [21069], [24460], [20877], [26032], [21021], [32066], [29983],
    [36009], [22768], [21561], [28436], [25237], [25429], [19968], [19977], [36938], [24038],
    [20013], [21491], [25351], [36208], [25171], [31105], [31354], [21512], [28288], [26377],
    [26376], [30003], [21106], [21942], [37197]]⟩,
  ⟨127552, [[12308, 26412, 12309], [12308, 19977, 12309], [12308, 20108, 12309],
    [12308, 23433, 12309], [12308, 28857, 12309], [12308, 25171, 12309], [12308, 30423, 12309],
    [12308, 21213, 12309], [12308, 25943, 12309]]⟩, ⟨127568, [[24471], [21487]]⟩,
  ⟨130032, [[48], [49], [50], [51], [52], [53], [54], [55], [56], [57]]⟩,
  ⟨194560, [[20029], [20024], [20033], [131362], [20320], [20398], [20411], [20482], [20602],
    [20633], [20711], [20687], [13470], [132666], [20813], [20820], [20836], [20855], [132380],
    [13497], [20839], [20877], [132427], [20887], [20900], [20172], [20908], [20917], [168415],
    [20981], [20995], [13535], [21051], [21062], [21106], [21111], [13589], [21191], [21193],
    [21220], [21242], [21253], [21254], [21271], [21321], [21329], [21338], [21363], [21373],
    [21375], [21375], [21375], [133676], [28784], [21450], [21471], [133987], [21483], [21489],
    [21510], [21662], [21560], [21576], [21608], [21666], [21750], [21776], [21843], [21859],
    [21892], [21892], [21913], [21931], [21939], [21954], [22294], [22022], [22295], [22097],
    [22132], [20999], [22766], [22478], [22516], [22541], [22411], [22578], [22577], [22700],
    [136420], [22770], [22775], [22790], [22810], [22818], [22882], [136872], [136938], [23020],
    [23067], [23079], [23000], [23142], [14062], [14076], [23304], [23358], [23358], [137672],
    [23491], [23512], [23527], [23539], [138008], [23551], [23558], [24403], [23586], [14209],
    [23648], [23662], [23744], [23693], [138724], [23875], [138726], [23918], [23915], [23932],
    [24033], [24034], [14383], [24061], [24104], [24125], [24169], [14434], [139651], [14460],
    [24240], [24243], [24246], [24266], [172946], [24318], [140081], [140081], [33281], [24354],
    [24354], [14535], [144056], [156122], [24418], [24427], [14563], [24474], [24525], [24535],
    [24569], [24705], [14650], [14620], [24724], [141012], [24775], [24904], [24908], [24910],
    [24908], [24954], [24974], [25010], [24996], [25007], [25054], [25074], [25078], [25104],
    [25115], [25181], [25265], [25300], [25424], [142092], [25405], [25340], [25448], [25475],
    [25572], [142321], [25634], [25541], [25513], [14894], [25705], [25726], [25757], [25719],
    [14956], [25935], [25964], [143370], [26083], [26360], [26185], [15129], [26257], [15112],
    [15076], [20882], [20885], [26368], [26268], [32941], [17369], [26391], [26395], [26401],
    [26462], [26451], [144323], [15177], [26618], [26501], [26706], [26757], [144493], [26766],
    [26655], [26900], [15261], [26946], [27043], [27114], [27304], [145059], [27355], [15384],
    [27425], [145575], [27476], [15438], [27506], [27551], [27578], [27579], [146061], [138507],
    [146170], [27726], [146620], [27839], [27853], [27751], [27926], [27966], [28023], [27969],
    [28009], [28024], [28037], [146718], [27956], [28207], [28270], [15667], [28363], [28359],
    [147153], [28153], [28526], [147294], [147342], [28614], [28729], [28702], [28699], [15766],
    [28746], [28797], [28791], [28845], [132389], [28997], [148067], [29084], [148395], [29224],
    [29237], [29264], [149000], [29312], [29333], [149301], [149524], [29562], [29579], [16044],
    [29605], [16056], [16056], [29767], [29788], [29809], [29829], [29898], [16155], [29988],
    [150582], [30014], [150674], [30064], [139679], [30224], [151457], [151480], [151620], [16380],
    [16392], [30452], [151795], [151794], [151833], [151859], [30494], [30495], [30495], [30538],
    [16441], [30603], [16454], [16534], [152605], [30798], [30860], [30924], [16611], [153126],
    [31062], [153242], [153285], [31119], [31211], [16687], [31296], [31306], [31311], [153980],
    [154279], [154279], [31470], [16898], [154539], [31686], [31689], [16935], [154752], [31954],
    [17056], [31976], [31971], [32000], [155526], [32099], [17153], [32199], [32258], [32325],
    [17204], [156200], [156231], [17241], [156377], [32634], [156478], [32661], [32762], [32773],
    [156890], [156963], [32864], [157096], [32880], [144223], [17365], [32946], [33027], [17419],
    [33086], [23221], [157607], [157621], [144275], [144284], [33281], [33284], [36766], [17515],
    [33425], [33419], [33437], [21171], [33457], [33459], [33469], [33510], [158524], [33509],
    [33565], [33635], [33709], [33571], [33725], [33767], [33879], [33619], [33738], [33740],
    [33756], [158774], [159083], [158933], [17707], [34033], [34035], [34070], [160714], [34148],
    [159532], [17757], [17761], [159665], [159954], [17771], [34384], [34396], [34407], [34409],
    [34473], [34440], [34574], [34530], [34681], [34600], [34667], [34694], [17879], [34785],
    [34817], [17913], [34912], [34915], [161383], [35031], [35038], [17973], [35066], [13499],
    [161966], [162150], [18110], [18119], [35488], [35565], [35722], [35925], [162984], [36011],
    [36033], [36123], [36215], [163631], [133124], [36299], [36284], [36336], [133342], [36564],
    [36664], [165330], [165357], [37012], [37105], [37137], [165678], [37147], [37432], [37591],
    [37592], [37500], [37881], [37909], [166906], [38283], [18837], [38327], [167287], [18918],
    [38595], [23986], [38691], [168261], [168474], [19054], [19062], [38880], [168970], [19122],
    [169110], [38923], [38923], [38953], [169398], [39138], [19251], [39209], [39335], [39362],
    [39422], [19406], [170800], [39698], [40000], [40189], [19662], [19693], [40295], [172238],
    [19704], [172293], [172558], [172689], [40635], [19798], [40697], [40702], [40709], [40719],
    [40726], [40763], [173568]]⟩]

end Dialogue.Text
