import Kata.Unicode.Basic
import Std.Data.HashMap

/-! Folding away accents by compatibility decomposition. -/

namespace Kata.Unicode

def nonspacingRanges : List CodeRange := [
  ⟨0x300, 0x36F⟩, ⟨0x483, 0x487⟩, ⟨0x591, 0x5BD⟩, ⟨0x5BF, 0x5BF⟩, ⟨0x5C1, 0x5C2⟩, ⟨0x5C4, 0x5C5⟩,
  ⟨0x5C7, 0x5C7⟩, ⟨0x610, 0x61A⟩, ⟨0x64B, 0x65F⟩, ⟨0x670, 0x670⟩, ⟨0x6D6, 0x6DC⟩, ⟨0x6DF, 0x6E4⟩,
  ⟨0x6E7, 0x6E8⟩, ⟨0x6EA, 0x6ED⟩, ⟨0x711, 0x711⟩, ⟨0x730, 0x74A⟩, ⟨0x7A6, 0x7B0⟩, ⟨0x7EB, 0x7F3⟩,
  ⟨0x7FD, 0x7FD⟩, ⟨0x816, 0x819⟩, ⟨0x81B, 0x823⟩, ⟨0x825, 0x827⟩, ⟨0x829, 0x82D⟩, ⟨0x859, 0x85B⟩,
  ⟨0x898, 0x89F⟩, ⟨0x8CA, 0x8E1⟩, ⟨0x8E3, 0x902⟩, ⟨0x93A, 0x93A⟩, ⟨0x93C, 0x93C⟩, ⟨0x941, 0x948⟩,
  ⟨0x94D, 0x94D⟩, ⟨0x951, 0x957⟩, ⟨0x962, 0x963⟩, ⟨0x981, 0x981⟩, ⟨0x9BC, 0x9BC⟩, ⟨0x9C1, 0x9C4⟩,
  ⟨0x9CD, 0x9CD⟩, ⟨0x9E2, 0x9E3⟩, ⟨0x9FE, 0x9FE⟩, ⟨0xA01, 0xA02⟩, ⟨0xA3C, 0xA3C⟩, ⟨0xA41, 0xA42⟩,
  ⟨0xA47, 0xA48⟩, ⟨0xA4B, 0xA4D⟩, ⟨0xA51, 0xA51⟩, ⟨0xA70, 0xA71⟩, ⟨0xA75, 0xA75⟩, ⟨0xA81, 0xA82⟩,
  ⟨0xABC, 0xABC⟩, ⟨0xAC1, 0xAC5⟩, ⟨0xAC7, 0xAC8⟩, ⟨0xACD, 0xACD⟩, ⟨0xAE2, 0xAE3⟩, ⟨0xAFA, 0xAFF⟩,
  ⟨0xB01, 0xB01⟩, ⟨0xB3C, 0xB3C⟩, ⟨0xB3F, 0xB3F⟩, ⟨0xB41, 0xB44⟩, ⟨0xB4D, 0xB4D⟩, ⟨0xB55, 0xB56⟩,
  ⟨0xB62, 0xB63⟩, ⟨0xB82, 0xB82⟩, ⟨0xBC0, 0xBC0⟩, ⟨0xBCD, 0xBCD⟩, ⟨0xC00, 0xC00⟩, ⟨0xC04, 0xC04⟩,
  ⟨0xC3C, 0xC3C⟩, ⟨0xC3E, 0xC40⟩, ⟨0xC46, 0xC48⟩, ⟨0xC4A, 0xC4D⟩, ⟨0xC55, 0xC56⟩, ⟨0xC62, 0xC63⟩,
  ⟨0xC81, 0xC81⟩, ⟨0xCBC, 0xCBC⟩, ⟨0xCBF, 0xCBF⟩, ⟨0xCC6, 0xCC6⟩, ⟨0xCCC, 0xCCD⟩, ⟨0xCE2, 0xCE3⟩,
  ⟨0xD00, 0xD01⟩, ⟨0xD3B, 0xD3C⟩, ⟨0xD41, 0xD44⟩, ⟨0xD4D, 0xD4D⟩, ⟨0xD62, 0xD63⟩, ⟨0xD81, 0xD81⟩,
  ⟨0xDCA, 0xDCA⟩, ⟨0xDD2, 0xDD4⟩, ⟨0xDD6, 0xDD6⟩, ⟨0xE31, 0xE31⟩, ⟨0xE34, 0xE3A⟩, ⟨0xE47, 0xE4E⟩,
  ⟨0xEB1, 0xEB1⟩, ⟨0xEB4, 0xEBC⟩, ⟨0xEC8, 0xECD⟩, ⟨0xF18, 0xF19⟩, ⟨0xF35, 0xF35⟩, ⟨0xF37, 0xF37⟩,
  ⟨0xF39, 0xF39⟩, ⟨0xF71, 0xF7E⟩, ⟨0xF80, 0xF84⟩, ⟨0xF86, 0xF87⟩, ⟨0xF8D, 0xF97⟩, ⟨0xF99, 0xFBC⟩,
  ⟨0xFC6, 0xFC6⟩, ⟨0x102D, 0x1030⟩, ⟨0x1032, 0x1037⟩, ⟨0x1039, 0x103A⟩, ⟨0x103D, 0x103E⟩,
  ⟨0x1058, 0x1059⟩, ⟨0x105E, 0x1060⟩, ⟨0x1071, 0x1074⟩, ⟨0x1082, 0x1082⟩, ⟨0x1085, 0x1086⟩,
  ⟨0x108D, 0x108D⟩, ⟨0x109D, 0x109D⟩, ⟨0x135D, 0x135F⟩, ⟨0x1712, 0x1714⟩, ⟨0x1732, 0x1733⟩,
  ⟨0x1752, 0x1753⟩, ⟨0x1772, 0x1773⟩, ⟨0x17B4, 0x17B5⟩, ⟨0x17B7, 0x17BD⟩, ⟨0x17C6, 0x17C6⟩,
  ⟨0x17C9, 0x17D3⟩, ⟨0x17DD, 0x17DD⟩, ⟨0x180B, 0x180D⟩, ⟨0x180F, 0x180F⟩, ⟨0x1885, 0x1886⟩,
  ⟨0x18A9, 0x18A9⟩, ⟨0x1920, 0x1922⟩, ⟨0x1927, 0x1928⟩, ⟨0x1932, 0x1932⟩, ⟨0x1939, 0x193B⟩,
  ⟨0x1A17, 0x1A18⟩, ⟨0x1A1B, 0x1A1B⟩, ⟨0x1A56, 0x1A56⟩, ⟨0x1A58, 0x1A5E⟩, ⟨0x1A60, 0x1A60⟩,
  ⟨0x1A62, 0x1A62⟩, ⟨0x1A65, 0x1A6C⟩, ⟨0x1A73, 0x1A7C⟩, ⟨0x1A7F, 0x1A7F⟩, ⟨0x1AB0, 0x1ABD⟩,
  ⟨0x1ABF, 0x1ACE⟩, ⟨0x1B00, 0x1B03⟩, ⟨0x1B34, 0x1B34⟩, ⟨0x1B36, 0x1B3A⟩, ⟨0x1B3C, 0x1B3C⟩,
  ⟨0x1B42, 0x1B42⟩, ⟨0x1B6B, 0x1B73⟩, ⟨0x1B80, 0x1B81⟩, ⟨0x1BA2, 0x1BA5⟩, ⟨0x1BA8, 0x1BA9⟩,
  ⟨0x1BAB, 0x1BAD⟩, ⟨0x1BE6, 0x1BE6⟩, ⟨0x1BE8, 0x1BE9⟩, ⟨0x1BED, 0x1BED⟩, ⟨0x1BEF, 0x1BF1⟩,
  ⟨0x1C2C, 0x1C33⟩, ⟨0x1C36, 0x1C37⟩, ⟨0x1CD0, 0x1CD2⟩, ⟨0x1CD4, 0x1CE0⟩, ⟨0x1CE2, 0x1CE8⟩,
  ⟨0x1CED, 0x1CED⟩, ⟨0x1CF4, 0x1CF4⟩, ⟨0x1CF8, 0x1CF9⟩, ⟨0x1DC0, 0x1DFF⟩, ⟨0x20D0, 0x20DC⟩,
  ⟨0x20E1, 0x20E1⟩, ⟨0x20E5, 0x20F0⟩, ⟨0x2CEF, 0x2CF1⟩, ⟨0x2D7F, 0x2D7F⟩, ⟨0x2DE0, 0x2DFF⟩,
  ⟨0x302A, 0x302D⟩, ⟨0x3099, 0x309A⟩, ⟨0xA66F, 0xA66F⟩, ⟨0xA674, 0xA67D⟩, ⟨0xA69E, 0xA69F⟩,
  ⟨0xA6F0, 0xA6F1⟩, ⟨0xA802, 0xA802⟩, ⟨0xA806, 0xA806⟩, ⟨0xA80B, 0xA80B⟩, ⟨0xA825, 0xA826⟩,
  ⟨0xA82C, 0xA82C⟩, ⟨0xA8C4, 0xA8C5⟩, ⟨0xA8E0, 0xA8F1⟩, ⟨0xA8FF, 0xA8FF⟩, ⟨0xA926, 0xA92D⟩,
  ⟨0xA947, 0xA951⟩, ⟨0xA980, 0xA982⟩, ⟨0xA9B3, 0xA9B3⟩, ⟨0xA9B6, 0xA9B9⟩, ⟨0xA9BC, 0xA9BD⟩,
  ⟨0xA9E5, 0xA9E5⟩, ⟨0xAA29, 0xAA2E⟩, ⟨0xAA31, 0xAA32⟩, ⟨0xAA35, 0xAA36⟩, ⟨0xAA43, 0xAA43⟩,
  ⟨0xAA4C, 0xAA4C⟩, ⟨0xAA7C, 0xAA7C⟩, ⟨0xAAB0, 0xAAB0⟩, ⟨0xAAB2, 0xAAB4⟩, ⟨0xAAB7, 0xAAB8⟩,
  ⟨0xAABE, 0xAABF⟩, ⟨0xAAC1, 0xAAC1⟩, ⟨0xAAEC, 0xAAED⟩, ⟨0xAAF6, 0xAAF6⟩, ⟨0xABE5, 0xABE5⟩,
  ⟨0xABE8, 0xABE8⟩, ⟨0xABED, 0xABED⟩, ⟨0xFB1E, 0xFB1E⟩, ⟨0xFE00, 0xFE0F⟩, ⟨0xFE20, 0xFE2F⟩,
  ⟨0x101FD, 0x101FD⟩, ⟨0x102E0, 0x102E0⟩, ⟨0x10376, 0x1037A⟩, ⟨0x10A01, 0x10A03⟩,
  ⟨0x10A05, 0x10A06⟩, ⟨0x10A0C, 0x10A0F⟩, ⟨0x10A38, 0x10A3A⟩, ⟨0x10A3F, 0x10A3F⟩,
  ⟨0x10AE5, 0x10AE6⟩, ⟨0x10D24, 0x10D27⟩, ⟨0x10EAB, 0x10EAC⟩, ⟨0x10F46, 0x10F50⟩,
  ⟨0x10F82, 0x10F85⟩, ⟨0x11001, 0x11001⟩, ⟨0x11038, 0x11046⟩, ⟨0x11070, 0x11070⟩,
  ⟨0x11073, 0x11074⟩, ⟨0x1107F, 0x11081⟩, ⟨0x110B3, 0x110B6⟩, ⟨0x110B9, 0x110BA⟩,
  ⟨0x110C2, 0x110C2⟩, ⟨0x11100, 0x11102⟩, ⟨0x11127, 0x1112B⟩, ⟨0x1112D, 0x11134⟩,
  ⟨0x11173, 0x11173⟩, ⟨0x11180, 0x11181⟩, ⟨0x111B6, 0x111BE⟩, ⟨0x111C9, 0x111CC⟩,
  ⟨0x111CF, 0x111CF⟩, ⟨0x1122F, 0x11231⟩, ⟨0x11234, 0x11234⟩, ⟨0x11236, 0x11237⟩,
  ⟨0x1123E, 0x1123E⟩, ⟨0x112DF, 0x112DF⟩, ⟨0x112E3, 0x112EA⟩, ⟨0x11300, 0x11301⟩,
  ⟨0x1133B, 0x1133C⟩, ⟨0x11340, 0x11340⟩, ⟨0x11366, 0x1136C⟩, ⟨0x11370, 0x11374⟩,
  ⟨0x11438, 0x1143F⟩, ⟨0x11442, 0x11444⟩, ⟨0x11446, 0x11446⟩, ⟨0x1145E, 0x1145E⟩,
  ⟨0x114B3, 0x114B8⟩, ⟨0x114BA, 0x114BA⟩, ⟨0x114BF, 0x114C0⟩, ⟨0x114C2, 0x114C3⟩,
  ⟨0x115B2, 0x115B5⟩, ⟨0x115BC, 0x115BD⟩, ⟨0x115BF, 0x115C0⟩, ⟨0x115DC, 0x115DD⟩,
  ⟨0x11633, 0x1163A⟩, ⟨0x1163D, 0x1163D⟩, ⟨0x1163F, 0x11640⟩, ⟨0x116AB, 0x116AB⟩,
  ⟨0x116AD, 0x116AD⟩, ⟨0x116B0, 0x116B5⟩, ⟨0x116B7, 0x116B7⟩, ⟨0x1171D, 0x1171F⟩,
  ⟨0x11722, 0x11725⟩, ⟨0x11727, 0x1172B⟩, ⟨0x1182F, 0x11837⟩, ⟨0x11839, 0x1183A⟩,
  ⟨0x1193B, 0x1193C⟩, ⟨0x1193E, 0x1193E⟩, ⟨0x11943, 0x11943⟩, ⟨0x119D4, 0x119D7⟩,
  ⟨0x119DA, 0x119DB⟩, ⟨0x119E0, 0x119E0⟩, ⟨0x11A01, 0x11A0A⟩, ⟨0x11A33, 0x11A38⟩,
  ⟨0x11A3B, 0x11A3E⟩, ⟨0x11A47, 0x11A47⟩, ⟨0x11A51, 0x11A56⟩, ⟨0x11A59, 0x11A5B⟩,
  ⟨0x11A8A, 0x11A96⟩, ⟨0x11A98, 0x11A99⟩, ⟨0x11C30, 0x11C36⟩, ⟨0x11C38, 0x11C3D⟩,
  ⟨0x11C3F, 0x11C3F⟩, ⟨0x11C92, 0x11CA7⟩, ⟨0x11CAA, 0x11CB0⟩, ⟨0x11CB2, 0x11CB3⟩,
  ⟨0x11CB5, 0x11CB6⟩, ⟨0x11D31, 0x11D36⟩, ⟨0x11D3A, 0x11D3A⟩, ⟨0x11D3C, 0x11D3D⟩,
  ⟨0x11D3F, 0x11D45⟩, ⟨0x11D47, 0x11D47⟩, ⟨0x11D90, 0x11D91⟩, ⟨0x11D95, 0x11D95⟩,
  ⟨0x11D97, 0x11D97⟩, ⟨0x11EF3, 0x11EF4⟩, ⟨0x16AF0, 0x16AF4⟩, ⟨0x16B30, 0x16B36⟩,
  ⟨0x16F4F, 0x16F4F⟩, ⟨0x16F8F, 0x16F92⟩, ⟨0x16FE4, 0x16FE4⟩, ⟨0x1BC9D, 0x1BC9E⟩,
  ⟨0x1CF00, 0x1CF2D⟩, ⟨0x1CF30, 0x1CF46⟩, ⟨0x1D167, 0x1D169⟩, ⟨0x1D17B, 0x1D182⟩,
  ⟨0x1D185, 0x1D18B⟩, ⟨0x1D1AA, 0x1D1AD⟩, ⟨0x1D242, 0x1D244⟩, ⟨0x1DA00, 0x1DA36⟩,
  ⟨0x1DA3B, 0x1DA6C⟩, ⟨0x1DA75, 0x1DA75⟩, ⟨0x1DA84, 0x1DA84⟩, ⟨0x1DA9B, 0x1DA9F⟩,
  ⟨0x1DAA1, 0x1DAAF⟩, ⟨0x1E000, 0x1E006⟩, ⟨0x1E008, 0x1E018⟩, ⟨0x1E01B, 0x1E021⟩,
  ⟨0x1E023, 0x1E024⟩, ⟨0x1E026, 0x1E02A⟩, ⟨0x1E130, 0x1E136⟩, ⟨0x1E2AE, 0x1E2AE⟩,
  ⟨0x1E2EC, 0x1E2EF⟩, ⟨0x1E8D0, 0x1E8D6⟩, ⟨0x1E944, 0x1E94A⟩, ⟨0xE0100, 0xE01EF⟩]

def isNonspacing (c : Char) : Bool := inRanges nonspacingRanges c.toNat

def foldLines : List String := [
  "  \x00¨ \x00ªa\x00¯ \x00²2\x00³3\x00´ \x00µμ\x00¸ \x00¹1\x00ºo\x00¼1⁄4\x00½1⁄2\x00¾3⁄4\x00ÀA",
  "ÁA\x00ÂA\x00ÃA\x00ÄA\x00ÅA\x00ÇC\x00ÈE\x00ÉE\x00ÊE\x00ËE\x00ÌI\x00ÍI\x00ÎI\x00ÏI\x00ÑN\x00ÒO",
  "ÓO\x00ÔO\x00ÕO\x00ÖO\x00ÙU\x00ÚU\x00ÛU\x00ÜU\x00ÝY\x00àa\x00áa\x00âa\x00ãa\x00äa\x00åa\x00çc",
  "èe\x00ée\x00êe\x00ëe\x00ìi\x00íi\x00îi\x00ïi\x00ñn\x00òo\x00óo\x00ôo\x00õo\x00öo\x00ùu\x00úu",
  "ûu\x00üu\x00ýy\x00ÿy\x00ĀA\x00āa\x00ĂA\x00ăa\x00ĄA\x00ąa\x00ĆC\x00ćc\x00ĈC\x00ĉc\x00ĊC\x00ċc",
  "ČC\x00čc\x00ĎD\x00ďd\x00ĒE\x00ēe\x00ĔE\x00ĕe\x00ĖE\x00ėe\x00ĘE\x00ęe\x00ĚE\x00ěe\x00ĜG\x00ĝg",
  "ĞG\x00ğg\x00ĠG\x00ġg\x00ĢG\x00ģg\x00ĤH\x00ĥh\x00ĨI\x00ĩi\x00ĪI\x00īi\x00ĬI\x00ĭi\x00ĮI\x00įi",
  "İI\x00ĲIJ\x00ĳij\x00ĴJ\x00ĵj\x00ĶK\x00ķk\x00ĹL\x00ĺl\x00ĻL\x00ļl\x00ĽL\x00ľl\x00ĿL·\x00ŀl·",
  "ŃN\x00ńn\x00ŅN\x00ņn\x00ŇN\x00ňn\x00ŉʼn\x00ŌO\x00ōo\x00ŎO\x00ŏo\x00ŐO\x00őo\x00ŔR\x00ŕr\x00ŖR",
  "ŗr\x00ŘR\x00řr\x00ŚS\x00śs\x00ŜS\x00ŝs\x00ŞS\x00şs\x00ŠS\x00šs\x00ŢT\x00ţt\x00ŤT\x00ťt\x00ŨU",
  "ũu\x00ŪU\x00ūu\x00ŬU\x00ŭu\x00ŮU\x00ůu\x00ŰU\x00űu\x00ŲU\x00ųu\x00ŴW\x00ŵw\x00ŶY\x00ŷy\x00ŸY",
  "ŹZ\x00źz\x00ŻZ\x00żz\x00ŽZ\x00žz\x00ſs\x00ƠO\x00ơo\x00ƯU\x00ưu\x00ǄDZ\x00ǅDz\x00ǆdz\x00ǇLJ",
  "ǈLj\x00ǉlj\x00ǊNJ\x00ǋNj\x00ǌnj\x00ǍA\x00ǎa\x00ǏI\x00ǐi\x00ǑO\x00ǒo\x00ǓU\x00ǔu\x00ǕU\x00ǖu",
  "ǗU\x00ǘu\x00ǙU\x00ǚu\x00ǛU\x00ǜu\x00ǞA\x00ǟa\x00ǠA\x00ǡa\x00ǢÆ\x00ǣæ\x00ǦG\x00ǧg\x00ǨK\x00ǩk",
  "ǪO\x00ǫo\x00ǬO\x00ǭo\x00ǮƷ\x00ǯʒ\x00ǰj\x00ǱDZ\x00ǲDz\x00ǳdz\x00ǴG\x00ǵg\x00ǸN\x00ǹn\x00ǺA\x00ǻa",
  "ǼÆ\x00ǽæ\x00ǾØ\x00ǿø\x00ȀA\x00ȁa\x00ȂA\x00ȃa\x00ȄE\x00ȅe\x00ȆE\x00ȇe\x00ȈI\x00ȉi\x00ȊI\x00ȋi",
  "ȌO\x00ȍo\x00ȎO\x00ȏo\x00ȐR\x00ȑr\x00ȒR\x00ȓr\x00ȔU\x00ȕu\x00ȖU\x00ȗu\x00ȘS\x00șs\x00ȚT\x00țt",
  "ȞH\x00ȟh\x00ȦA\x00ȧa\x00ȨE\x00ȩe\x00ȪO\x00ȫo\x00ȬO\x00ȭo\x00ȮO\x00ȯo\x00ȰO\x00ȱo\x00ȲY\x00ȳy",
  "ʰh\x00ʱɦ\x00ʲj\x00ʳr\x00ʴɹ\x00ʵɻ\x00ʶʁ\x00ʷw\x00ʸy\x00˘ \x00˙ \x00˚ \x00˛ \x00˜ \x00˝ \x00ˠɣ",
  "ˡl\x00ˢs\x00ˣx\x00ˤʕ\x00ʹʹ\x00ͺ \x00;;\x00΄ \x00΅ \x00ΆΑ\x00··\x00ΈΕ\x00ΉΗ\x00ΊΙ\x00ΌΟ\x00ΎΥ",
  "ΏΩ\x00ΐι\x00ΪΙ\x00ΫΥ\x00άα\x00έε\x00ήη\x00ίι\x00ΰυ\x00ϊι\x00ϋυ\x00όο\x00ύυ\x00ώω\x00ϐβ\x00ϑθ",
  "ϒΥ\x00ϓΥ\x00ϔΥ\x00ϕφ\x00ϖπ\x00ϰκ\x00ϱρ\x00ϲς\x00ϴΘ\x00ϵε\x00ϹΣ\x00ЀЕ\x00ЁЕ\x00ЃГ\x00ЇІ\x00ЌК",
  "ЍИ\x00ЎУ\x00ЙИ\x00йи\x00ѐе\x00ёе\x00ѓг\x00їі\x00ќк\x00ѝи\x00ўу\x00ѶѴ\x00ѷѵ\x00ӁЖ\x00ӂж\x00ӐА",
  "ӑа\x00ӒА\x00ӓа\x00ӖЕ\x00ӗе\x00ӚӘ\x00ӛә\x00ӜЖ\x00ӝж\x00ӞЗ\x00ӟз\x00ӢИ\x00ӣи\x00ӤИ\x00ӥи\x00ӦО",
  "ӧо\x00ӪӨ\x00ӫө\x00ӬЭ\x00ӭэ\x00ӮУ\x00ӯу\x00ӰУ\x00ӱу\x00ӲУ\x00ӳу\x00ӴЧ\x00ӵч\x00ӸЫ\x00ӹы\x00ևեւ",
  "آا\x00أا\x00ؤو\x00إا\x00ئي\x00ٵاٴ\x00ٶوٴ\x00ٷۇٴ\x00ٸيٴ\x00ۀە\x00ۂہ\x00ۓے\x00ऩन\x00ऱर\x00ऴळ",
  "क़क\x00ख़ख\x00ग़ग\x00ज़ज\x00ड़ड\x00ढ़ढ\x00फ़फ\x00य़य\x00োো\x00ৌৌ\x00ড়ড\x00ঢ়ঢ\x00য়য\x00ਲ਼ਲ\x00ਸ਼ਸ\x00ਖ਼ਖ",
  "ਗ਼ਗ\x00ਜ਼ਜ\x00ਫ਼ਫ\x00ୈେ\x00ୋୋ\x00ୌୌ\x00ଡ଼ଡ\x00ଢ଼ଢ\x00ஔஔ\x00ொொ\x00ோோ\x00ௌௌ\x00ೀೕ\x00ೇೕ\x00ೈೖ",
  "ೊೂ\x00ೋೂೕ\x00ൊൊ\x00ോോ\x00ൌൌ\x00ේෙ\x00ොො\x00ෝො\x00ෞෞ\x00ำา\x00ຳາ\x00ໜຫນ\x00ໝຫມ\x00༌་\x00གྷག",
  "ཌྷཌ\x00དྷད\x00བྷབ\x00ཛྷཛ\x00ཀྵཀ\x00ဦဥ\x00ჼნ\x00ᬆᬆ\x00ᬈᬈ\x00ᬊᬊ\x00ᬌᬌ\x00ᬎᬎ\x00ᬒᬒ\x00ᬻᬵ\x00ᬽᬵ",
  "ᭀᭀ\x00ᭁᭁ\x00ᭃᬵ\x00ᴬA\x00ᴭÆ\x00ᴮB\x00ᴰD\x00ᴱE\x00ᴲƎ\x00ᴳG\x00ᴴH\x00ᴵI\x00ᴶJ\x00ᴷK\x00ᴸL\x00ᴹM",
  "ᴺN\x00ᴼO\x00ᴽȢ\x00ᴾP\x00ᴿR\x00ᵀT\x00ᵁU\x00ᵂW\x00ᵃa\x00ᵄɐ\x00ᵅɑ\x00ᵆᴂ\x00ᵇb\x00ᵈd\x00ᵉe\x00ᵊə",
  "ᵋɛ\x00ᵌɜ\x00ᵍg\x00ᵏk\x00ᵐm\x00ᵑŋ\x00ᵒo\x00ᵓɔ\x00ᵔᴖ\x00ᵕᴗ\x00ᵖp\x00ᵗt\x00ᵘu\x00ᵙᴝ\x00ᵚɯ\x00ᵛv",
  "ᵜᴥ\x00ᵝβ\x00ᵞγ\x00ᵟδ\x00ᵠφ\x00ᵡχ\x00ᵢi\x00ᵣr\x00ᵤu\x00ᵥv\x00ᵦβ\x00ᵧγ\x00ᵨρ\x00ᵩφ\x00ᵪχ\x00ᵸн",
  "ᶛɒ\x00ᶜc\x00ᶝɕ\x00ᶞð\x00ᶟɜ\x00ᶠf\x00ᶡɟ\x00ᶢɡ\x00ᶣɥ\x00ᶤɨ\x00ᶥɩ\x00ᶦɪ\x00ᶧᵻ\x00ᶨʝ\x00ᶩɭ\x00ᶪᶅ",
  "ᶫʟ\x00ᶬɱ\x00ᶭɰ\x00ᶮɲ\x00ᶯɳ\x00ᶰɴ\x00ᶱɵ\x00ᶲɸ\x00ᶳʂ\x00ᶴʃ\x00ᶵƫ\x00ᶶʉ\x00ᶷʊ\x00ᶸᴜ\x00ᶹʋ\x00ᶺʌ",
  "ᶻz\x00ᶼʐ\x00ᶽʑ\x00ᶾʒ\x00ᶿθ\x00ḀA\x00ḁa\x00ḂB\x00ḃb\x00ḄB\x00ḅb\x00ḆB\x00ḇb\x00ḈC\x00ḉc\x00ḊD",
  "ḋd\x00ḌD\x00ḍd\x00ḎD\x00ḏd\x00ḐD\x00ḑd\x00ḒD\x00ḓd\x00ḔE\x00ḕe\x00ḖE\x00ḗe\x00ḘE\x00ḙe\x00ḚE",
  "ḛe\x00ḜE\x00ḝe\x00ḞF\x00ḟf\x00ḠG\x00ḡg\x00ḢH\x00ḣh\x00ḤH\x00ḥh\x00ḦH\x00ḧh\x00ḨH\x00ḩh\x00ḪH",
  "ḫh\x00ḬI\x00ḭi\x00ḮI\x00ḯi\x00ḰK\x00ḱk\x00ḲK\x00ḳk\x00ḴK\x00ḵk\x00ḶL\x00ḷl\x00ḸL\x00ḹl\x00ḺL",
  "ḻl\x00ḼL\x00ḽl\x00ḾM\x00ḿm\x00ṀM\x00ṁm\x00ṂM\x00ṃm\x00ṄN\x00ṅn\x00ṆN\x00ṇn\x00ṈN\x00ṉn\x00ṊN",
  "ṋn\x00ṌO\x00ṍo\x00ṎO\x00ṏo\x00ṐO\x00ṑo\x00ṒO\x00ṓo\x00ṔP\x00ṕp\x00ṖP\x00ṗp\x00ṘR\x00ṙr\x00ṚR",
  "ṛr\x00ṜR\x00ṝr\x00ṞR\x00ṟr\x00ṠS\x00ṡs\x00ṢS\x00ṣs\x00ṤS\x00ṥs\x00ṦS\x00ṧs\x00ṨS\x00ṩs\x00ṪT",
  "ṫt\x00ṬT\x00ṭt\x00ṮT\x00ṯt\x00ṰT\x00ṱt\x00ṲU\x00ṳu\x00ṴU\x00ṵu\x00ṶU\x00ṷu\x00ṸU\x00ṹu\x00ṺU",
  "ṻu\x00ṼV\x00ṽv\x00ṾV\x00ṿv\x00ẀW\x00ẁw\x00ẂW\x00ẃw\x00ẄW\x00ẅw\x00ẆW\x00ẇw\x00ẈW\x00ẉw\x00ẊX",
  "ẋx\x00ẌX\x00ẍx\x00ẎY\x00ẏy\x00ẐZ\x00ẑz\x00ẒZ\x00ẓz\x00ẔZ\x00ẕz\x00ẖh\x00ẗt\x00ẘw\x00ẙy\x00ẚaʾ",
  "ẛs\x00ẠA\x00ạa\x00ẢA\x00ảa\x00ẤA\x00ấa\x00ẦA\x00ầa\x00ẨA\x00ẩa\x00ẪA\x00ẫa\x00ẬA\x00ậa\x00ẮA",
  "ắa\x00ẰA\x00ằa\x00ẲA\x00ẳa\x00ẴA\x00ẵa\x00ẶA\x00ặa\x00ẸE\x00ẹe\x00ẺE\x00ẻe\x00ẼE\x00ẽe\x00ẾE",
  "ếe\x00ỀE\x00ềe\x00ỂE\x00ểe\x00ỄE\x00ễe\x00ỆE\x00ệe\x00ỈI\x00ỉi\x00ỊI\x00ịi\x00ỌO\x00ọo\x00ỎO",
  "ỏo\x00ỐO\x00ốo\x00ỒO\x00ồo\x00ỔO\x00ổo\x00ỖO\x00ỗo\x00ỘO\x00ộo\x00ỚO\x00ớo\x00ỜO\x00ờo\x00ỞO",
  "ởo\x00ỠO\x00ỡo\x00ỢO\x00ợo\x00ỤU\x00ụu\x00ỦU\x00ủu\x00ỨU\x00ứu\x00ỪU\x00ừu\x00ỬU\x00ửu\x00ỮU",
  "ữu\x00ỰU\x00ựu\x00ỲY\x00ỳy\x00ỴY\x00ỵy\x00ỶY\x00ỷy\x00ỸY\x00ỹy\x00ἀα\x00ἁα\x00ἂα\x00ἃα\x00ἄα",
  "ἅα\x00ἆα\x00ἇα\x00ἈΑ\x00ἉΑ\x00ἊΑ\x00ἋΑ\x00ἌΑ\x00ἍΑ\x00ἎΑ\x00ἏΑ\x00ἐε\x00ἑε\x00ἒε\x00ἓε\x00ἔε",
  "ἕε\x00ἘΕ\x00ἙΕ\x00ἚΕ\x00ἛΕ\x00ἜΕ\x00ἝΕ\x00ἠη\x00ἡη\x00ἢη\x00ἣη\x00ἤη\x00ἥη\x00ἦη\x00ἧη\x00ἨΗ",
  "ἩΗ\x00ἪΗ\x00ἫΗ\x00ἬΗ\x00ἭΗ\x00ἮΗ\x00ἯΗ\x00ἰι\x00ἱι\x00ἲι\x00ἳι\x00ἴι\x00ἵι\x00ἶι\x00ἷι\x00ἸΙ",
  "ἹΙ\x00ἺΙ\x00ἻΙ\x00ἼΙ\x00ἽΙ\x00ἾΙ\x00ἿΙ\x00ὀο\x00ὁο\x00ὂο\x00ὃο\x00ὄο\x00ὅο\x00ὈΟ\x00ὉΟ\x00ὊΟ",
  "ὋΟ\x00ὌΟ\x00ὍΟ\x00ὐυ\x00ὑυ\x00ὒυ\x00ὓυ\x00ὔυ\x00ὕυ\x00ὖυ\x00ὗυ\x00ὙΥ\x00ὛΥ\x00ὝΥ\x00ὟΥ\x00ὠω",
  "ὡω\x00ὢω\x00ὣω\x00ὤω\x00ὥω\x00ὦω\x00ὧω\x00ὨΩ\x00ὩΩ\x00ὪΩ\x00ὫΩ\x00ὬΩ\x00ὭΩ\x00ὮΩ\x00ὯΩ\x00ὰα",
  "άα\x00ὲε\x00έε\x00ὴη\x00ήη\x00ὶι\x00ίι\x00ὸο\x00όο\x00ὺυ\x00ύυ\x00ὼω\x00ώω\x00ᾀα\x00ᾁα\x00ᾂα",
  "ᾃα\x00ᾄα\x00ᾅα\x00ᾆα\x00ᾇα\x00ᾈΑ\x00ᾉΑ\x00ᾊΑ\x00ᾋΑ\x00ᾌΑ\x00ᾍΑ\x00ᾎΑ\x00ᾏΑ\x00ᾐη\x00ᾑη\x00ᾒη",
  "ᾓη\x00ᾔη\x00ᾕη\x00ᾖη\x00ᾗη\x00ᾘΗ\x00ᾙΗ\x00ᾚΗ\x00ᾛΗ\x00ᾜΗ\x00ᾝΗ\x00ᾞΗ\x00ᾟΗ\x00ᾠω\x00ᾡω\x00ᾢω",
  "ᾣω\x00ᾤω\x00ᾥω\x00ᾦω\x00ᾧω\x00ᾨΩ\x00ᾩΩ\x00ᾪΩ\x00ᾫΩ\x00ᾬΩ\x00ᾭΩ\x00ᾮΩ\x00ᾯΩ\x00ᾰα\x00ᾱα\x00ᾲα",
  "ᾳα\x00ᾴα\x00ᾶα\x00ᾷα\x00ᾸΑ\x00ᾹΑ\x00ᾺΑ\x00ΆΑ\x00ᾼΑ\x00᾽ \x00ιι\x00᾿ \x00῀ \x00῁ \x00ῂη\x00ῃη",
  "ῄη\x00ῆη\x00ῇη\x00ῈΕ\x00ΈΕ\x00ῊΗ\x00ΉΗ\x00ῌΗ\x00῍ \x00῎ \x00῏ \x00ῐι\x00ῑι\x00ῒι\x00ΐι\x00ῖι",
  "ῗι\x00ῘΙ\x00ῙΙ\x00ῚΙ\x00ΊΙ\x00῝ \x00῞ \x00῟ \x00ῠυ\x00ῡυ\x00ῢυ\x00ΰυ\x00ῤρ\x00ῥρ\x00ῦυ\x00ῧυ",
  "ῨΥ\x00ῩΥ\x00ῪΥ\x00ΎΥ\x00ῬΡ\x00῭ \x00΅ \x00`\x60\x00ῲω\x00ῳω\x00ῴω\x00ῶω\x00ῷω\x00ῸΟ\x00ΌΟ\x00ῺΩ",
  "ΏΩ\x00ῼΩ\x00´ \x00῾ \x00  \x00  \x00  \x00  \x00  \x00  \x00  \x00  \x00  \x00  \x00  \x00‑‐",
  "‗ \x00․.\x00‥..\x00…...\x00  \x00″′′\x00‴′′′\x00‶‵‵\x00‷‵‵‵\x00‼!!\x00‾ \x00⁇??\x00⁈?!\x00⁉!?",
  "⁗′′′′\x00  \x00⁰0\x00ⁱi\x00⁴4\x00⁵5\x00⁶6\x00⁷7\x00⁸8\x00⁹9\x00⁺+\x00⁻−\x00⁼=\x00⁽(\x00⁾)\x00ⁿn",
  "₀0\x00₁1\x00₂2\x00₃3\x00₄4\x00₅5\x00₆6\x00₇7\x00₈8\x00₉9\x00₊+\x00₋−\x00₌=\x00₍(\x00₎)\x00ₐa",
  "ₑe\x00ₒo\x00ₓx\x00ₔə\x00ₕh\x00ₖk\x00ₗl\x00ₘm\x00ₙn\x00ₚp\x00ₛs\x00ₜt\x00₨Rs\x00℀a/c\x00℁a/s",
  "ℂC\x00℃°C\x00℅c/o\x00℆c/u\x00ℇƐ\x00℉°F\x00ℊg\x00ℋH\x00ℌH\x00ℍH\x00ℎh\x00ℏħ\x00ℐI\x00ℑI\x00ℒL",
  "ℓl\x00ℕN\x00№No\x00ℙP\x00ℚQ\x00ℛR\x00ℜR\x00ℝR\x00℠SM\x00℡TEL\x00™TM\x00ℤZ\x00ΩΩ\x00ℨZ\x00KK",
  "ÅA\x00ℬB\x00ℭC\x00ℯe\x00ℰE\x00ℱF\x00ℳM\x00ℴo\x00ℵא\x00ℶב\x00ℷג\x00ℸד\x00ℹi\x00℻FAX\x00ℼπ\x00ℽγ",
  "ℾΓ\x00ℿΠ\x00⅀∑\x00ⅅD\x00ⅆd\x00ⅇe\x00ⅈi\x00ⅉj\x00⅐1⁄7\x00⅑1⁄9\x00⅒1⁄10\x00⅓1⁄3\x00⅔2⁄3\x00⅕1⁄5",
  "⅖2⁄5\x00⅗3⁄5\x00⅘4⁄5\x00⅙1⁄6\x00⅚5⁄6\x00⅛1⁄8\x00⅜3⁄8\x00⅝5⁄8\x00⅞7⁄8\x00⅟1⁄\x00ⅠI\x00ⅡII",
  "ⅢIII\x00ⅣIV\x00ⅤV\x00ⅥVI\x00ⅦVII\x00ⅧVIII\x00ⅨIX\x00ⅩX\x00ⅪXI\x00ⅫXII\x00ⅬL\x00ⅭC\x00ⅮD\x00ⅯM",
  "ⅰi\x00ⅱii\x00ⅲiii\x00ⅳiv\x00ⅴv\x00ⅵvi\x00ⅶvii\x00ⅷviii\x00ⅸix\x00ⅹx\x00ⅺxi\x00ⅻxii\x00ⅼl\x00ⅽc",
  "ⅾd\x00ⅿm\x00↉0⁄3\x00↚←\x00↛→\x00↮↔\x00⇍⇐\x00⇎⇔\x00⇏⇒\x00∄∃\x00∉∈\x00∌∋\x00∤∣\x00∦∥\x00∬∫∫",
  "∭∫∫∫\x00∯∮∮\x00∰∮∮∮\x00≁∼\x00≄≃\x00≇≅\x00≉≈\x00≠=\x00≢≡\x00≭≍\x00≮<\x00≯>\x00≰≤\x00≱≥\x00≴≲",
  "≵≳\x00≸≶\x00≹≷\x00⊀≺\x00⊁≻\x00⊄⊂\x00⊅⊃\x00⊈⊆\x00⊉⊇\x00⊬⊢\x00⊭⊨\x00⊮⊩\x00⊯⊫\x00⋠≼\x00⋡≽\x00⋢⊑",
  "⋣⊒\x00⋪⊲\x00⋫⊳\x00⋬⊴\x00⋭⊵\x00〈〈\x00〉〉\x00①1\x00②2\x00③3\x00④4\x00⑤5\x00⑥6\x00⑦7\x00⑧8\x00⑨9",
  "⑩10\x00⑪11\x00⑫12\x00⑬13\x00⑭14\x00⑮15\x00⑯16\x00⑰17\x00⑱18\x00⑲19\x00⑳20\x00⑴(1)\x00⑵(2)",
  "⑶(3)\x00⑷(4)\x00⑸(5)\x00⑹(6)\x00⑺(7)\x00⑻(8)\x00⑼(9)\x00⑽(10)\x00⑾(11)\x00⑿(12)\x00⒀(13)",
  "⒁(14)\x00⒂(15)\x00⒃(16)\x00⒄(17)\x00⒅(18)\x00⒆(19)\x00⒇(20)\x00⒈1.\x00⒉2.\x00⒊3.\x00⒋4.\x00⒌5.",
  "⒍6.\x00⒎7.\x00⒏8.\x00⒐9.\x00⒑10.\x00⒒11.\x00⒓12.\x00⒔13.\x00⒕14.\x00⒖15.\x00⒗16.\x00⒘17.",
  "⒙18.\x00⒚19.\x00⒛20.\x00⒜(a)\x00⒝(b)\x00⒞(c)\x00⒟(d)\x00⒠(e)\x00⒡(f)\x00⒢(g)\x00⒣(h)\x00⒤(i)",
  "⒥(j)\x00⒦(k)\x00⒧(l)\x00⒨(m)\x00⒩(n)\x00⒪(o)\x00⒫(p)\x00⒬(q)\x00⒭(r)\x00⒮(s)\x00⒯(t)\x00⒰(u)",
  "⒱(v)\x00⒲(w)\x00⒳(x)\x00⒴(y)\x00⒵(z)\x00ⒶA\x00ⒷB\x00ⒸC\x00ⒹD\x00ⒺE\x00ⒻF\x00ⒼG\x00ⒽH\x00ⒾI",
  "ⒿJ\x00ⓀK\x00ⓁL\x00ⓂM\x00ⓃN\x00ⓄO\x00ⓅP\x00ⓆQ\x00ⓇR\x00ⓈS\x00ⓉT\x00ⓊU\x00ⓋV\x00ⓌW\x00ⓍX\x00ⓎY",
  "ⓏZ\x00ⓐa\x00ⓑb\x00ⓒc\x00ⓓd\x00ⓔe\x00ⓕf\x00ⓖg\x00ⓗh\x00ⓘi\x00ⓙj\x00ⓚk\x00ⓛl\x00ⓜm\x00ⓝn\x00ⓞo",
  "ⓟp\x00ⓠq\x00ⓡr\x00ⓢs\x00ⓣt\x00ⓤu\x00ⓥv\x00ⓦw\x00ⓧx\x00ⓨy\x00ⓩz\x00⓪0\x00⨌∫∫∫∫\x00⩴::=\x00⩵==",
  "⩶===\x00⫝̸⫝\x00ⱼj\x00ⱽV\x00ⵯⵡ\x00⺟母\x00⻳龟\x00　 \x00〶〒\x00〸十\x00〹卄\x00〺卅\x00がか\x00ぎき\x00ぐく\x00げけ",
  "ごこ\x00ざさ\x00じし\x00ずす\x00ぜせ\x00ぞそ\x00だた\x00ぢち\x00づつ\x00でて\x00どと\x00ばは\x00ぱは\x00びひ\x00ぴひ\x00ぶふ",
  "ぷふ\x00べへ\x00ぺへ\x00ぼほ\x00ぽほ\x00ゔう\x00゛ \x00゜ \x00ゞゝ\x00ゟより\x00ガカ\x00ギキ\x00グク\x00ゲケ\x00ゴコ\x00ザサ",
  "ジシ\x00ズス\x00ゼセ\x00ゾソ\x00ダタ\x00ヂチ\x00ヅツ\x00デテ\x00ドト\x00バハ\x00パハ\x00ビヒ\x00ピヒ\x00ブフ\x00プフ\x00ベヘ",
  "ペヘ\x00ボホ\x00ポホ\x00ヴウ\x00ヷワ\x00ヸヰ\x00ヹヱ\x00ヺヲ\x00ヾヽ\x00ヿコト\x00ㄱᄀ\x00ㄲᄁ\x00ㄳᆪ\x00ㄴᄂ\x00ㄵᆬ\x00ㄶᆭ",
  "ㄷᄃ\x00ㄸᄄ\x00ㄹᄅ\x00ㄺᆰ\x00ㄻᆱ\x00ㄼᆲ\x00ㄽᆳ\x00ㄾᆴ\x00ㄿᆵ\x00ㅀᄚ\x00ㅁᄆ\x00ㅂᄇ\x00ㅃᄈ\x00ㅄᄡ\x00ㅅᄉ\x00ㅆᄊ",
  "ㅇᄋ\x00ㅈᄌ\x00ㅉᄍ\x00ㅊᄎ\x00ㅋᄏ\x00ㅌᄐ\x00ㅍᄑ\x00ㅎᄒ\x00ㅏᅡ\x00ㅐᅢ\x00ㅑᅣ\x00ㅒᅤ\x00ㅓᅥ\x00ㅔᅦ\x00ㅕᅧ\x00ㅖᅨ",
  "ㅗᅩ\x00ㅘᅪ\x00ㅙᅫ\x00ㅚᅬ\x00ㅛᅭ\x00ㅜᅮ\x00ㅝᅯ\x00ㅞᅰ\x00ㅟᅱ\x00ㅠᅲ\x00ㅡᅳ\x00ㅢᅴ\x00ㅣᅵ\x00ㅤᅠ\x00ㅥᄔ\x00ㅦᄕ",
  "ㅧᇇ\x00ㅨᇈ\x00ㅩᇌ\x00ㅪᇎ\x00ㅫᇓ\x00ㅬᇗ\x00ㅭᇙ\x00ㅮᄜ\x00ㅯᇝ\x00ㅰᇟ\x00ㅱᄝ\x00ㅲᄞ\x00ㅳᄠ\x00ㅴᄢ\x00ㅵᄣ\x00ㅶᄧ",
  "ㅷᄩ\x00ㅸᄫ\x00ㅹᄬ\x00ㅺᄭ\x00ㅻᄮ\x00ㅼᄯ\x00ㅽᄲ\x00ㅾᄶ\x00ㅿᅀ\x00ㆀᅇ\x00ㆁᅌ\x00ㆂᇱ\x00ㆃᇲ\x00ㆄᅗ\x00ㆅᅘ\x00ㆆᅙ",
  "ㆇᆄ\x00ㆈᆅ\x00ㆉᆈ\x00ㆊᆑ\x00ㆋᆒ\x00ㆌᆔ\x00ㆍᆞ\x00ㆎᆡ\x00㆒一\x00㆓二\x00㆔三\x00㆕四\x00㆖上\x00㆗中\x00㆘下\x00㆙甲",
  "㆚乙\x00㆛丙\x00㆜丁\x00㆝天\x00㆞地\x00㆟人\x00㈀(ᄀ)\x00㈁(ᄂ)\x00㈂(ᄃ)\x00㈃(ᄅ)\x00㈄(ᄆ)\x00㈅(ᄇ)\x00㈆(ᄉ)",
  "㈇(ᄋ)\x00㈈(ᄌ)\x00㈉(ᄎ)\x00㈊(ᄏ)\x00㈋(ᄐ)\x00㈌(ᄑ)\x00㈍(ᄒ)\x00㈎(가)\x00㈏(나)\x00㈐(다)\x00㈑(라)",
  "㈒(마)\x00㈓(바)\x00㈔(사)\x00㈕(아)\x00㈖(자)\x00㈗(차)\x00㈘(카)\x00㈙(타)\x00㈚(파)\x00㈛(하)\x00㈜(주)",
  "㈝(오전)\x00㈞(오후)\x00㈠(一)\x00㈡(二)\x00㈢(三)\x00㈣(四)\x00㈤(五)\x00㈥(六)\x00㈦(七)\x00㈧(八)\x00㈨(九)",
  "㈩(十)\x00㈪(月)\x00㈫(火)\x00㈬(水)\x00㈭(木)\x00㈮(金)\x00㈯(土)\x00㈰(日)\x00㈱(株)\x00㈲(有)\x00㈳(社)\x00㈴(名)",
  "㈵(特)\x00㈶(財)\x00㈷(祝)\x00㈸(労)\x00㈹(代)\x00㈺(呼)\x00㈻(学)\x00㈼(監)\x00㈽(企)\x00㈾(資)\x00㈿(協)\x00㉀(祭)",
  "㉁(休)\x00㉂(自)\x00㉃(至)\x00㉄問\x00㉅幼\x00㉆文\x00㉇箏\x00㉐PTE\x00㉑21\x00㉒22\x00㉓23\x00㉔24\x00㉕25\x00㉖26",
  "㉗27\x00㉘28\x00㉙29\x00㉚30\x00㉛31\x00㉜32\x00㉝33\x00㉞34\x00㉟35\x00㉠ᄀ\x00㉡ᄂ\x00㉢ᄃ\x00㉣ᄅ\x00㉤ᄆ\x00㉥ᄇ",
  "㉦ᄉ\x00㉧ᄋ\x00㉨ᄌ\x00㉩ᄎ\x00㉪ᄏ\x00㉫ᄐ\x00㉬ᄑ\x00㉭ᄒ\x00㉮가\x00㉯나\x00㉰다\x00㉱라\x00㉲마\x00㉳바\x00㉴사",
  "㉵아\x00㉶자\x00㉷차\x00㉸카\x00㉹타\x00㉺파\x00㉻하\x00㉼참고\x00㉽주의\x00㉾우\x00㊀一\x00㊁二\x00㊂三\x00㊃四",
  "㊄五\x00㊅六\x00㊆七\x00㊇八\x00㊈九\x00㊉十\x00㊊月\x00㊋火\x00㊌水\x00㊍木\x00㊎金\x00㊏土\x00㊐日\x00㊑株\x00㊒有\x00㊓社",
  "㊔名\x00㊕特\x00㊖財\x00㊗祝\x00㊘労\x00㊙秘\x00㊚男\x00㊛女\x00㊜適\x00㊝優\x00㊞印\x00㊟注\x00㊠項\x00㊡休\x00㊢写\x00㊣正",
  "㊤上\x00㊥中\x00㊦下\x00㊧左\x00㊨右\x00㊩医\x00㊪宗\x00㊫学\x00㊬監\x00㊭企\x00㊮資\x00㊯協\x00㊰夜\x00㊱36\x00㊲37\x00㊳38",
  "㊴39\x00㊵40\x00㊶41\x00㊷42\x00㊸43\x00㊹44\x00㊺45\x00㊻46\x00㊼47\x00㊽48\x00㊾49\x00㊿50\x00㋀1月\x00㋁2月",
  "㋂3月\x00㋃4月\x00㋄5月\x00㋅6月\x00㋆7月\x00㋇8月\x00㋈9月\x00㋉10月\x00㋊11月\x00㋋12月\x00㋌Hg\x00㋍erg\x00㋎eV",
  "㋏LTD\x00㋐ア\x00㋑イ\x00㋒ウ\x00㋓エ\x00㋔オ\x00㋕カ\x00㋖キ\x00㋗ク\x00㋘ケ\x00㋙コ\x00㋚サ\x00㋛シ\x00㋜ス\x00㋝セ\x00㋞ソ",
  "㋟タ\x00㋠チ\x00㋡ツ\x00㋢テ\x00㋣ト\x00㋤ナ\x00㋥ニ\x00㋦ヌ\x00㋧ネ\x00㋨ノ\x00㋩ハ\x00㋪ヒ\x00㋫フ\x00㋬ヘ\x00㋭ホ\x00㋮マ",
  "㋯ミ\x00㋰ム\x00㋱メ\x00㋲モ\x00㋳ヤ\x00㋴ユ\x00㋵ヨ\x00㋶ラ\x00㋷リ\x00㋸ル\x00㋹レ\x00㋺ロ\x00㋻ワ\x00㋼ヰ\x00㋽ヱ\x00㋾ヲ",
  "㋿令和\x00㌀アハート\x00㌁アルファ\x00㌂アンヘア\x00㌃アール\x00㌄イニンク\x00㌅インチ\x00㌆ウォン\x00㌇エスクート\x00㌈エーカー\x00㌉オンス",
  "㌊オーム\x00㌋カイリ\x00㌌カラット\x00㌍カロリー\x00㌎カロン\x00㌏カンマ\x00㌐キカ\x00㌑キニー\x00㌒キュリー\x00㌓キルター\x00㌔キロ",
  "㌕キロクラム\x00㌖キロメートル\x00㌗キロワット\x00㌘クラム\x00㌙クラムトン\x00㌚クルセイロ\x00㌛クローネ\x00㌜ケース\x00㌝コルナ\x00㌞コーホ",
  "㌟サイクル\x00㌠サンチーム\x00㌡シリンク\x00㌢センチ\x00㌣セント\x00㌤タース\x00㌥テシ\x00㌦トル\x00㌧トン\x00㌨ナノ\x00㌩ノット\x00㌪ハイツ",
  "㌫ハーセント\x00㌬ハーツ\x00㌭ハーレル\x00㌮ヒアストル\x00㌯ヒクル\x00㌰ヒコ\x00㌱ヒル\x00㌲ファラット\x00㌳フィート\x00㌴フッシェル\x00㌵フラン",
  "㌶ヘクタール\x00㌷ヘソ\x00㌸ヘニヒ\x00㌹ヘルツ\x00㌺ヘンス\x00㌻ヘーシ\x00㌼ヘータ\x00㌽ホイント\x00㌾ホルト\x00㌿ホン\x00㍀ホント\x00㍁ホール",
  "㍂ホーン\x00㍃マイクロ\x00㍄マイル\x00㍅マッハ\x00㍆マルク\x00㍇マンション\x00㍈ミクロン\x00㍉ミリ\x00㍊ミリハール\x00㍋メカ\x00㍌メカトン",
  "㍍メートル\x00㍎ヤート\x00㍏ヤール\x00㍐ユアン\x00㍑リットル\x00㍒リラ\x00㍓ルヒー\x00㍔ルーフル\x00㍕レム\x00㍖レントケン\x00㍗ワット\x00㍘0点",
  "㍙1点\x00㍚2点\x00㍛3点\x00㍜4点\x00㍝5点\x00㍞6点\x00㍟7点\x00㍠8点\x00㍡9点\x00㍢10点\x00㍣11点\x00㍤12点\x00㍥13点",
  "㍦14点\x00㍧15点\x00㍨16点\x00㍩17点\x00㍪18点\x00㍫19点\x00㍬20点\x00㍭21点\x00㍮22点\x00㍯23点\x00㍰24点\x00㍱hPa",
  "㍲da\x00㍳AU\x00㍴bar\x00㍵oV\x00㍶pc\x00㍷dm\x00㍸dm2\x00㍹dm3\x00㍺IU\x00㍻平成\x00㍼昭和\x00㍽大正\x00㍾明治",
  "㍿株式会社\x00㎀pA\x00㎁nA\x00㎂μA\x00㎃mA\x00㎄kA\x00㎅KB\x00㎆MB\x00㎇GB\x00㎈cal\x00㎉kcal\x00㎊pF\x00㎋nF",
  "㎌μF\x00㎍μg\x00㎎mg\x00㎏kg\x00㎐Hz\x00㎑kHz\x00㎒MHz\x00㎓GHz\x00㎔THz\x00㎕μl\x00㎖ml\x00㎗dl\x00㎘kl",
  "㎙fm\x00㎚nm\x00㎛μm\x00㎜mm\x00㎝cm\x00㎞km\x00㎟mm2\x00㎠cm2\x00㎡m2\x00㎢km2\x00㎣mm3\x00㎤cm3\x00㎥m3",
  "㎦km3\x00㎧m∕s\x00㎨m∕s2\x00㎩Pa\x00㎪kPa\x00㎫MPa\x00㎬GPa\x00㎭rad\x00㎮rad∕s\x00㎯rad∕s2\x00㎰ps\x00㎱ns",
  "㎲μs\x00㎳ms\x00㎴pV\x00㎵nV\x00㎶μV\x00㎷mV\x00㎸kV\x00㎹MV\x00㎺pW\x00㎻nW\x00㎼μW\x00㎽mW\x00㎾kW\x00㎿MW",
  "㏀kΩ\x00㏁MΩ\x00㏂a.m.\x00㏃Bq\x00㏄cc\x00㏅cd\x00㏆C∕kg\x00㏇Co.\x00㏈dB\x00㏉Gy\x00㏊ha\x00㏋HP\x00㏌in",
  "㏍KK\x00㏎KM\x00㏏kt\x00㏐lm\x00㏑ln\x00㏒log\x00㏓lx\x00㏔mb\x00㏕mil\x00㏖mol\x00㏗PH\x00㏘p.m.\x00㏙PPM",
  "㏚PR\x00㏛sr\x00㏜Sv\x00㏝Wb\x00㏞V∕m\x00㏟A∕m\x00㏠1日\x00㏡2日\x00㏢3日\x00㏣4日\x00㏤5日\x00㏥6日\x00㏦7日",
  "㏧8日\x00㏨9日\x00㏩10日\x00㏪11日\x00㏫12日\x00㏬13日\x00㏭14日\x00㏮15日\x00㏯16日\x00㏰17日\x00㏱18日\x00㏲19日",
  "㏳20日\x00㏴21日\x00㏵22日\x00㏶23日\x00㏷24日\x00㏸25日\x00㏹26日\x00㏺27日\x00㏻28日\x00㏼29日\x00㏽30日\x00㏾31日",
  "㏿gal\x00ꚜъ\x00ꚝь\x00ꝰꝯ\x00ꟲC\x00ꟳF\x00ꟴQ\x00ꟸĦ\x00ꟹœ\x00ꭜꜧ\x00ꭝꬷ\x00ꭞɫ\x00ꭟꭒ\x00ꭩʍ\x00ﬀff",
  "ﬁfi\x00ﬂfl\x00ﬃffi\x00ﬄffl\x00ﬅst\x00ﬆst\x00ﬓմն\x00ﬔմե\x00ﬕմի\x00ﬖվն\x00ﬗմխ\x00יִי\x00ײַײ\x00ﬠע",
  "ﬡא\x00ﬢד\x00ﬣה\x00ﬤכ\x00ﬥל\x00ﬦם\x00ﬧר\x00ﬨת\x00﬩+\x00שׁש\x00שׂש\x00שּׁש\x00שּׂש\x00אַא\x00אָא\x00אּא",
  "בּב\x00גּג\x00דּד\x00הּה\x00וּו\x00זּז\x00טּט\x00יּי\x00ךּך\x00כּכ\x00לּל\x00מּמ\x00נּנ\x00סּס\x00ףּף\x00פּפ",
  "צּצ\x00קּק\x00רּר\x00שּש\x00תּת\x00וֹו\x00בֿב\x00כֿכ\x00פֿפ\x00ﭏאל\x00︐,\x00︑、\x00︒。\x00︓:\x00︔;\x00︕!",
  "︖?\x00︗〖\x00︘〗\x00︙...\x00︰..\x00︱—\x00︲–\x00︳_\x00︴_\x00︵(\x00︶)\x00︷\x7b\x00︸\x7d\x00︹〔\x00︺〕",
  "︻【\x00︼】\x00︽《\x00︾》\x00︿〈\x00﹀〉\x00﹁「\x00﹂」\x00﹃『\x00﹄』\x00﹇[\x00﹈]\x00﹉ \x00﹊ \x00﹋ \x00﹌ ",
  "﹍_\x00﹎_\x00﹏_\x00﹐,\x00﹑、\x00﹒.\x00﹔;\x00﹕:\x00﹖?\x00﹗!\x00﹘—\x00﹙(\x00﹚)\x00﹛\x7b\x00﹜\x7d",
  "﹝〔\x00﹞〕\x00﹟#\x00﹠&\x00﹡*\x00﹢+\x00﹣-\x00﹤<\x00﹥>\x00﹦=\x00﹨\x5c\x00﹩$\x00﹪%\x00﹫@\x00！!",
  "＂\x22\x00＃#\x00＄$\x00％%\x00＆&\x00＇\x27\x00（(\x00）)\x00＊*\x00＋+\x00，,\x00－-\x00．.\x00／/\x00０0",
  "１1\x00２2\x00３3\x00４4\x00５5\x00６6\x00７7\x00８8\x00９9\x00：:\x00；;\x00＜<\x00＝=\x00＞>\x00？?\x00＠@",
  "ＡA\x00ＢB\x00ＣC\x00ＤD\x00ＥE\x00ＦF\x00ＧG\x00ＨH\x00ＩI\x00ＪJ\x00ＫK\x00ＬL\x00ＭM\x00ＮN\x00ＯO\x00ＰP",
  "ＱQ\x00ＲR\x00ＳS\x00ＴT\x00ＵU\x00ＶV\x00ＷW\x00ＸX\x00ＹY\x00ＺZ\x00［[\x00＼\x5c\x00］]\x00＾^\x00＿_",
  "｀\x60\x00ａa\x00ｂb\x00ｃc\x00ｄd\x00ｅe\x00ｆf\x00ｇg\x00ｈh\x00ｉi\x00ｊj\x00ｋk\x00ｌl\x00ｍm\x00ｎn\x00ｏo",
  "ｐp\x00ｑq\x00ｒr\x00ｓs\x00ｔt\x00ｕu\x00ｖv\x00ｗw\x00ｘx\x00ｙy\x00ｚz\x00｛\x7b\x00｜|\x00｝\x7d\x00～~",
  "｟⦅\x00｠⦆\x00｡。\x00｢「\x00｣」\x00､、\x00･・\x00ｦヲ\x00ｧァ\x00ｨィ\x00ｩゥ\x00ｪェ\x00ｫォ\x00ｬャ\x00ｭュ\x00ｮョ",
  "ｯッ\x00ｰー\x00ｱア\x00ｲイ\x00ｳウ\x00ｴエ\x00ｵオ\x00ｶカ\x00ｷキ\x00ｸク\x00ｹケ\x00ｺコ\x00ｻサ\x00ｼシ\x00ｽス\x00ｾセ",
  "ｿソ\x00ﾀタ\x00ﾁチ\x00ﾂツ\x00ﾃテ\x00ﾄト\x00ﾅナ\x00ﾆニ\x00ﾇヌ\x00ﾈネ\x00ﾉノ\x00ﾊハ\x00ﾋヒ\x00ﾌフ\x00ﾍヘ\x00ﾎホ",
  "ﾏマ\x00ﾐミ\x00ﾑム\x00ﾒメ\x00ﾓモ\x00ﾔヤ\x00ﾕユ\x00ﾖヨ\x00ﾗラ\x00ﾘリ\x00ﾙル\x00ﾚレ\x00ﾛロ\x00ﾜワ\x00ﾝン\x00ﾞ",
  "ﾟ\x00ﾠᅠ\x00ﾡᄀ\x00ﾢᄁ\x00ﾣᆪ\x00ﾤᄂ\x00ﾥᆬ\x00ﾦᆭ\x00ﾧᄃ\x00ﾨᄄ\x00ﾩᄅ\x00ﾪᆰ\x00ﾫᆱ\x00ﾬᆲ\x00ﾭᆳ\x00ﾮᆴ",
  "ﾯᆵ\x00ﾰᄚ\x00ﾱᄆ\x00ﾲᄇ\x00ﾳᄈ\x00ﾴᄡ\x00ﾵᄉ\x00ﾶᄊ\x00ﾷᄋ\x00ﾸᄌ\x00ﾹᄍ\x00ﾺᄎ\x00ﾻᄏ\x00ﾼᄐ\x00ﾽᄑ\x00ﾾᄒ",
  "ￂᅡ\x00ￃᅢ\x00ￄᅣ\x00ￅᅤ\x00ￆᅥ\x00ￇᅦ\x00ￊᅧ\x00ￋᅨ\x00ￌᅩ\x00ￍᅪ\x00ￎᅫ\x00ￏᅬ\x00ￒᅭ\x00ￓᅮ\x00ￔᅯ\x00ￕᅰ",
  "ￖᅱ\x00ￗᅲ\x00ￚᅳ\x00ￛᅴ\x00ￜᅵ\x00￠¢\x00￡£\x00￢¬\x00￣ \x00￤¦\x00￥¥\x00￦₩\x00￨│\x00￩←\x00￪↑\x00￫→",
  "￬↓\x00￭■\x00￮○\x00𐞁ː\x00𐞂ˑ\x00𐞃æ\x00𐞄ʙ\x00𐞅ɓ\x00𐞇ʣ\x00𐞈ꭦ\x00𐞉ʥ\x00𐞊ʤ\x00𐞋ɖ\x00𐞌ɗ\x00𐞍ᶑ\x00𐞎ɘ",
  "𐞏ɞ\x00𐞐ʩ\x00𐞑ɤ\x00𐞒ɢ\x00𐞓ɠ\x00𐞔ʛ\x00𐞕ħ\x00𐞖ʜ\x00𐞗ɧ\x00𐞘ʄ\x00𐞙ʪ\x00𐞚ʫ\x00𐞛ɬ\x00𐞜𝼄\x00𐞝ꞎ\x00𐞞ɮ",
  "𐞟𝼅\x00𐞠ʎ\x00𐞡𝼆\x00𐞢ø\x00𐞣ɶ\x00𐞤ɷ\x00𐞥q\x00𐞦ɺ\x00𐞧𝼈\x00𐞨ɽ\x00𐞩ɾ\x00𐞪ʀ\x00𐞫ʨ\x00𐞬ʦ\x00𐞭ꭧ\x00𐞮ʧ",
  "𐞯ʈ\x00𐞰ⱱ\x00𐞲ʏ\x00𐞳ʡ\x00𐞴ʢ\x00𐞵ʘ\x00𐞶ǀ\x00𐞷ǁ\x00𐞸ǂ\x00𐞹𝼊\x00𐞺𝼞\x00𑂚𑂙\x00𑂜𑂛\x00𑂫𑂥\x00𑍋𑍋\x00𑍌𑍌",
  "𑒻𑒹\x00𑒼𑒼\x00𑒾𑒾\x00𑖺𑖺\x00𑖻𑖻\x00𑤸𑤸\x00𝅗𝅥𝅗𝅥\x00𝅘𝅥𝅘𝅥\x00𝅘𝅥𝅮𝅘𝅥𝅮\x00𝅘𝅥𝅯𝅘𝅥𝅯\x00𝅘𝅥𝅰𝅘𝅥𝅰\x00𝅘𝅥𝅱𝅘𝅥𝅱\x00𝅘𝅥𝅲𝅘𝅥𝅲",
  "𝆹𝅥𝆹𝅥\x00𝆺𝅥𝆺𝅥\x00𝆹𝅥𝅮𝆹𝅥𝅮\x00𝆺𝅥𝅮𝆺𝅥𝅮\x00𝆹𝅥𝅯𝆹𝅥𝅯\x00𝆺𝅥𝅯𝆺𝅥𝅯\x00𞸀ا\x00𞸁ب\x00𞸂ج\x00𞸃د\x00𞸅و\x00𞸆ز\x00𞸇ح\x00𞸈ط",
  "𞸉ي\x00𞸊ك\x00𞸋ل\x00𞸌م\x00𞸍ن\x00𞸎س\x00𞸏ع\x00𞸐ف\x00𞸑ص\x00𞸒ق\x00𞸓ر\x00𞸔ش\x00𞸕ت\x00𞸖ث\x00𞸗خ\x00𞸘ذ",
  "𞸙ض\x00𞸚ظ\x00𞸛غ\x00𞸜ٮ\x00𞸝ں\x00𞸞ڡ\x00𞸟ٯ\x00𞸡ب\x00𞸢ج\x00𞸤ه\x00𞸧ح\x00𞸩ي\x00𞸪ك\x00𞸫ل\x00𞸬م\x00𞸭ن",
  "𞸮س\x00𞸯ع\x00𞸰ف\x00𞸱ص\x00𞸲ق\x00𞸴ش\x00𞸵ت\x00𞸶ث\x00𞸷خ\x00𞸹ض\x00𞸻غ\x00𞹂ج\x00𞹇ح\x00𞹉ي\x00𞹋ل\x00𞹍ن",
  "𞹎س\x00𞹏ع\x00𞹑ص\x00𞹒ق\x00𞹔ش\x00𞹗خ\x00𞹙ض\x00𞹛غ\x00𞹝ں\x00𞹟ٯ\x00𞹡ب\x00𞹢ج\x00𞹤ه\x00𞹧ح\x00𞹨ط\x00𞹩ي",
  "𞹪ك\x00𞹬م\x00𞹭ن\x00𞹮س\x00𞹯ع\x00𞹰ف\x00𞹱ص\x00𞹲ق\x00𞹴ش\x00𞹵ت\x00𞹶ث\x00𞹷خ\x00𞹹ض\x00𞹺ظ\x00𞹻غ\x00𞹼ٮ",
  "𞹾ڡ\x00𞺀ا\x00𞺁ب\x00𞺂ج\x00𞺃د\x00𞺄ه\x00𞺅و\x00𞺆ز\x00𞺇ح\x00𞺈ط\x00𞺉ي\x00𞺋ل\x00𞺌م\x00𞺍ن\x00𞺎س\x00𞺏ع",
  "𞺐ف\x00𞺑ص\x00𞺒ق\x00𞺓ر\x00𞺔ش\x00𞺕ت\x00𞺖ث\x00𞺗خ\x00𞺘ذ\x00𞺙ض\x00𞺚ظ\x00𞺛غ\x00𞺡ب\x00𞺢ج\x00𞺣د\x00𞺥و",
  "𞺦ز\x00𞺧ح\x00𞺨ط\x00𞺩ي\x00𞺫ل\x00𞺬م\x00𞺭ن\x00𞺮س\x00𞺯ع\x00𞺰ف\x00𞺱ص\x00𞺲ق\x00𞺳ر\x00𞺴ش\x00𞺵ت\x00𞺶ث",
  "𞺷خ\x00𞺸ذ\x00𞺹ض\x00𞺺ظ\x00𞺻غ\x00🄀0.\x00🄁0,\x00🄂1,\x00🄃2,\x00🄄3,\x00🄅4,\x00🄆5,\x00🄇6,\x00🄈7,",
  "🄉8,\x00🄊9,\x00🄐(A)\x00🄑(B)\x00🄒(C)\x00🄓(D)\x00🄔(E)\x00🄕(F)\x00🄖(G)\x00🄗(H)\x00🄘(I)\x00🄙(J)",
  "🄚(K)\x00🄛(L)\x00🄜(M)\x00🄝(N)\x00🄞(O)\x00🄟(P)\x00🄠(Q)\x00🄡(R)\x00🄢(S)\x00🄣(T)\x00🄤(U)\x00🄥(V)",
  "🄦(W)\x00🄧(X)\x00🄨(Y)\x00🄩(Z)\x00🄪〔S〕\x00🄫C\x00🄬R\x00🄭CD\x00🄮WZ\x00🄰A\x00🄱B\x00🄲C\x00🄳D\x00🄴E",
  "🄵F\x00🄶G\x00🄷H\x00🄸I\x00🄹J\x00🄺K\x00🄻L\x00🄼M\x00🄽N\x00🄾O\x00🄿P\x00🅀Q\x00🅁R\x00🅂S\x00🅃T\x00🅄U",
  "🅅V\x00🅆W\x00🅇X\x00🅈Y\x00🅉Z\x00🅊HV\x00🅋MV\x00🅌SD\x00🅍SS\x00🅎PPV\x00🅏WC\x00🅪MC\x00🅫MD\x00🅬MR",
  "🆐DJ\x00🈀ほか\x00🈁ココ\x00🈂サ\x00🈐手\x00🈑字\x00🈒双\x00🈓テ\x00🈔二\x00🈕多\x00🈖解\x00🈗天\x00🈘交\x00🈙映\x00🈚無\x00🈛料",
  "🈜前\x00🈝後\x00🈞再\x00🈟新\x00🈠初\x00🈡終\x00🈢生\x00🈣販\x00🈤声\x00🈥吹\x00🈦演\x00🈧投\x00🈨捕\x00🈩一\x00🈪三\x00🈫遊",
  "🈬左\x00🈭中\x00🈮右\x00🈯指\x00🈰走\x00🈱打\x00🈲禁\x00🈳空\x00🈴合\x00🈵満\x00🈶有\x00🈷月\x00🈸申\x00🈹割\x00🈺営\x00🈻配",
  "🉀〔本〕\x00🉁〔三〕\x00🉂〔二〕\x00🉃〔安〕\x00🉄〔点〕\x00🉅〔打〕\x00🉆〔盗〕\x00🉇〔勝〕\x00🉈〔敗〕\x00🉐得\x00🉑可\x00🯰0\x00🯱1",
  "🯲2\x00🯳3\x00🯴4\x00🯵5\x00🯶6\x00🯷7\x00🯸8\x00🯹9"]

def foldTable : Std.HashMap Char (List Char) :=
  (foldLines.flatMap (·.splitOn "\x00")).foldl (fun m entry =>
    match entry.toList with
    | c :: image => m.insert c image
    | [] => m) {}

def foldChar (c : Char) : List Char :=
  if isNonspacing c then [] else (foldTable.get? c).getD [c]

/-- A text with accents, ligatures and compatibility forms folded away. -/
def fold (s : String) : String := String.ofList (s.toList.flatMap foldChar)

end Kata.Unicode
