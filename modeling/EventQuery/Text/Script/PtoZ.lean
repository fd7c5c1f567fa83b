import EventQuery.Text.Script.Basic

/-!
# Scripts, zanabazarSquare]

The characters of each script, by the English name of the script.
-/

namespace EventQuery.Script

def pahawhHmong : Script where
  names := ["Hmng", "Pahawh_Hmong"]
  characters := .ofRanges
    [(0x16B00, 0x16B45), (0x16B50, 0x16B59), (0x16B5B, 0x16B61), (0x16B63, 0x16B77),
     (0x16B7D, 0x16B8F)]
  users := none

def palmyrene : Script where
  names := ["Palm", "Palmyrene"]
  characters := .ofRanges
    [(0x10860, 0x1087F)]
  users := none

def pauCinHau : Script where
  names := ["Pauc", "Pau_Cin_Hau"]
  characters := .ofRanges
    [(0x11AC0, 0x11AF8)]
  users := none

def phagsPa : Script where
  names := ["Phag", "Phags_Pa"]
  characters := .ofRanges
    [(0xA840, 0xA877)]
  users := some <| .ofRanges
    [(0x1802, 0x1803), (0x1805, 0x1805), (0x202F, 0x202F), (0x3002, 0x3002), (0xA840, 0xA877)]

def phoenician : Script where
  names := ["Phnx", "Phoenician"]
  characters := .ofRanges
    [(0x10900, 0x1091B), (0x1091F, 0x1091F)]
  users := none

def psalterPahlavi : Script where
  names := ["Phlp", "Psalter_Pahlavi"]
  characters := .ofRanges
    [(0x10B80, 0x10B91), (0x10B99, 0x10B9C), (0x10BA9, 0x10BAF)]
  users := some <| .ofRanges
    [(0x640, 0x640), (0x10B80, 0x10B91), (0x10B99, 0x10B9C), (0x10BA9, 0x10BAF)]

def rejang : Script where
  names := ["Rjng", "Rejang"]
  characters := .ofRanges
    [(0xA930, 0xA953), (0xA95F, 0xA95F)]
  users := none

def runic : Script where
  names := ["Runr", "Runic"]
  characters := .ofRanges
    [(0x16A0, 0x16EA), (0x16EE, 0x16F8)]
  users := some <| .ofRanges
    [(0x16A0, 0x16F8)]

def samaritan : Script where
  names := ["Samr", "Samaritan"]
  characters := .ofRanges
    [(0x800, 0x82D), (0x830, 0x83E)]
  users := some <| .ofRanges
    [(0x800, 0x82D), (0x830, 0x83E), (0x2E31, 0x2E31)]

def saurashtra : Script where
  names := ["Saur", "Saurashtra"]
  characters := .ofRanges
    [(0xA880, 0xA8C5), (0xA8CE, 0xA8D9)]
  users := none

def sharada : Script where
  names := ["Shrd", "Sharada"]
  characters := .ofRanges
    [(0x11180, 0x111DF)]
  users := some <| .ofRanges
    [(0x951, 0x951), (0x1CD7, 0x1CD7), (0x1CD9, 0x1CD9), (0x1CDC, 0x1CDD), (0x1CE0, 0x1CE0),
     (0xA830, 0xA835), (0xA838, 0xA838), (0x11180, 0x111DF)]

def shavian : Script where
  names := ["Shaw", "Shavian"]
  characters := .ofRanges
    [(0x10450, 0x1047F)]
  users := some <| .ofRanges
    [(0xB7, 0xB7), (0x10450, 0x1047F)]

def siddham : Script where
  names := ["Sidd", "Siddham"]
  characters := .ofRanges
    [(0x11580, 0x115B5), (0x115B8, 0x115DD)]
  users := none

def signWriting : Script where
  names := ["Sgnw", "SignWriting"]
  characters := .ofRanges
    [(0x1D800, 0x1DA8B), (0x1DA9B, 0x1DA9F), (0x1DAA1, 0x1DAAF)]
  users := none

def sinhala : Script where
  names := ["Sinh", "Sinhala"]
  characters := .ofRanges
    [(0xD81, 0xD83), (0xD85, 0xD96), (0xD9A, 0xDB1), (0xDB3, 0xDBB), (0xDBD, 0xDBD), (0xDC0, 0xDC6),
     (0xDCA, 0xDCA), (0xDCF, 0xDD4), (0xDD6, 0xDD6), (0xDD8, 0xDDF), (0xDE6, 0xDEF), (0xDF2, 0xDF4),
     (0x111E1, 0x111F4)]
  users := some <| .ofRanges
    [(0x964, 0x965), (0xD81, 0xD83), (0xD85, 0xD96), (0xD9A, 0xDB1), (0xDB3, 0xDBB), (0xDBD, 0xDBD),
     (0xDC0, 0xDC6), (0xDCA, 0xDCA), (0xDCF, 0xDD4), (0xDD6, 0xDD6), (0xDD8, 0xDDF), (0xDE6, 0xDEF),
     (0xDF2, 0xDF4), (0x1CF2, 0x1CF2), (0x111E1, 0x111F4)]

def sogdian : Script where
  names := ["Sogd", "Sogdian"]
  characters := .ofRanges
    [(0x10F30, 0x10F59)]
  users := some <| .ofRanges
    [(0x640, 0x640), (0x10F30, 0x10F59)]

def soraSompeng : Script where
  names := ["Sora", "Sora_Sompeng"]
  characters := .ofRanges
    [(0x110D0, 0x110E8), (0x110F0, 0x110F9)]
  users := none

def soyombo : Script where
  names := ["Soyo", "Soyombo"]
  characters := .ofRanges
    [(0x11A50, 0x11AA2)]
  users := none

def sundanese : Script where
  names := ["Sund", "Sundanese"]
  characters := .ofRanges
    [(0x1B80, 0x1BBF), (0x1CC0, 0x1CC7)]
  users := none

def sunuwar : Script where
  names := ["Sunu", "Sunuwar"]
  characters := .ofRanges
    [(0x11BC0, 0x11BE1), (0x11BF0, 0x11BF9)]
  users := some <| .ofRanges
    [(0x300, 0x301), (0x303, 0x303), (0x30D, 0x30D), (0x310, 0x310), (0x32D, 0x32D), (0x331, 0x331),
     (0x11BC0, 0x11BE1), (0x11BF0, 0x11BF9)]

def sylotiNagri : Script where
  names := ["Sylo", "Syloti_Nagri"]
  characters := .ofRanges
    [(0xA800, 0xA82C)]
  users := some <| .ofRanges
    [(0x964, 0x965), (0x9E6, 0x9EF), (0xA800, 0xA82C)]

def syriac : Script where
  names := ["Syrc", "Syriac"]
  characters := .ofRanges
    [(0x700, 0x70D), (0x70F, 0x74A), (0x74D, 0x74F), (0x860, 0x86A)]
  users := some <| .ofRanges
    [(0x303, 0x304), (0x307, 0x308), (0x30A, 0x30A), (0x320, 0x320), (0x323, 0x325), (0x32D, 0x32E),
     (0x330, 0x330), (0x60C, 0x60C), (0x61B, 0x61C), (0x61F, 0x61F), (0x640, 0x640), (0x64B, 0x655),
     (0x670, 0x670), (0x700, 0x70D), (0x70F, 0x74A), (0x74D, 0x74F), (0x860, 0x86A),
     (0x1DF8, 0x1DF8), (0x1DFA, 0x1DFA)]

def tagalog : Script where
  names := ["Tglg", "Tagalog"]
  characters := .ofRanges
    [(0x1700, 0x1715), (0x171F, 0x171F)]
  users := some <| .ofRanges
    [(0x1700, 0x1715), (0x171F, 0x171F), (0x1735, 0x1736)]

def tagbanwa : Script where
  names := ["Tagb", "Tagbanwa"]
  characters := .ofRanges
    [(0x1760, 0x176C), (0x176E, 0x1770), (0x1772, 0x1773)]
  users := some <| .ofRanges
    [(0x1735, 0x1736), (0x1760, 0x176C), (0x176E, 0x1770), (0x1772, 0x1773)]

def taiLe : Script where
  names := ["Tale", "Tai_Le"]
  characters := .ofRanges
    [(0x1950, 0x196D), (0x1970, 0x1974)]
  users := some <| .ofRanges
    [(0x300, 0x301), (0x307, 0x308), (0x30C, 0x30C), (0x1040, 0x1049), (0x1950, 0x196D),
     (0x1970, 0x1974)]

def taiTham : Script where
  names := ["Lana", "Tai_Tham"]
  characters := .ofRanges
    [(0x1A20, 0x1A5E), (0x1A60, 0x1A7C), (0x1A7F, 0x1A89), (0x1A90, 0x1A99), (0x1AA0, 0x1AAD)]
  users := none

def taiViet : Script where
  names := ["Tavt", "Tai_Viet"]
  characters := .ofRanges
    [(0xAA80, 0xAAC2), (0xAADB, 0xAADF)]
  users := none

def takri : Script where
  names := ["Takr", "Takri"]
  characters := .ofRanges
    [(0x11680, 0x116B9), (0x116C0, 0x116C9)]
  users := some <| .ofRanges
    [(0x964, 0x965), (0xA830, 0xA839), (0x11680, 0x116B9), (0x116C0, 0x116C9)]

def tamil : Script where
  names := ["Taml", "Tamil"]
  characters := .ofRanges
    [(0xB82, 0xB83), (0xB85, 0xB8A), (0xB8E, 0xB90), (0xB92, 0xB95), (0xB99, 0xB9A), (0xB9C, 0xB9C),
     (0xB9E, 0xB9F), (0xBA3, 0xBA4), (0xBA8, 0xBAA), (0xBAE, 0xBB9), (0xBBE, 0xBC2), (0xBC6, 0xBC8),
     (0xBCA, 0xBCD), (0xBD0, 0xBD0), (0xBD7, 0xBD7), (0xBE6, 0xBFA), (0x11FC0, 0x11FF1),
     (0x11FFF, 0x11FFF)]
  users := some <| .ofRanges
    [(0x951, 0x952), (0x964, 0x965), (0xB82, 0xB83), (0xB85, 0xB8A), (0xB8E, 0xB90), (0xB92, 0xB95),
     (0xB99, 0xB9A), (0xB9C, 0xB9C), (0xB9E, 0xB9F), (0xBA3, 0xBA4), (0xBA8, 0xBAA), (0xBAE, 0xBB9),
     (0xBBE, 0xBC2), (0xBC6, 0xBC8), (0xBCA, 0xBCD), (0xBD0, 0xBD0), (0xBD7, 0xBD7), (0xBE6, 0xBFA),
     (0x1CDA, 0x1CDA), (0xA8F3, 0xA8F3), (0x11301, 0x11301), (0x11303, 0x11303), (0x1133B, 0x1133C),
     (0x11FC0, 0x11FF1), (0x11FFF, 0x11FFF)]

def tangsa : Script where
  names := ["Tnsa", "Tangsa"]
  characters := .ofRanges
    [(0x16A70, 0x16ABE), (0x16AC0, 0x16AC9)]
  users := none

def tangut : Script where
  names := ["Tang", "Tangut"]
  characters := .ofRanges
    [(0x16FE0, 0x16FE0), (0x17000, 0x187F7), (0x18800, 0x18AFF), (0x18D00, 0x18D08)]
  users := some <| .ofRanges
    [(0x2FF0, 0x2FFF), (0x31EF, 0x31EF), (0x16FE0, 0x16FE0), (0x17000, 0x187F7), (0x18800, 0x18AFF),
     (0x18D00, 0x18D08)]

def telugu : Script where
  names := ["Telu", "Telugu"]
  characters := .ofRanges
    [(0xC00, 0xC0C), (0xC0E, 0xC10), (0xC12, 0xC28), (0xC2A, 0xC39), (0xC3C, 0xC44), (0xC46, 0xC48),
     (0xC4A, 0xC4D), (0xC55, 0xC56), (0xC58, 0xC5A), (0xC5D, 0xC5D), (0xC60, 0xC63), (0xC66, 0xC6F),
     (0xC77, 0xC7F)]
  users := some <| .ofRanges
    [(0x951, 0x952), (0x964, 0x965), (0xC00, 0xC0C), (0xC0E, 0xC10), (0xC12, 0xC28), (0xC2A, 0xC39),
     (0xC3C, 0xC44), (0xC46, 0xC48), (0xC4A, 0xC4D), (0xC55, 0xC56), (0xC58, 0xC5A), (0xC5D, 0xC5D),
     (0xC60, 0xC63), (0xC66, 0xC6F), (0xC77, 0xC7F), (0x1CDA, 0x1CDA), (0x1CF2, 0x1CF2)]

def thaana : Script where
  names := ["Thaa", "Thaana"]
  characters := .ofRanges
    [(0x780, 0x7B1)]
  users := some <| .ofRanges
    [(0x60C, 0x60C), (0x61B, 0x61C), (0x61F, 0x61F), (0x660, 0x669), (0x780, 0x7B1),
     (0xFDF2, 0xFDF2), (0xFDFD, 0xFDFD)]

def thai : Script where
  names := ["Thai", "Thai"]
  characters := .ofRanges
    [(0xE01, 0xE3A), (0xE40, 0xE5B)]
  users := some <| .ofRanges
    [(0x2BC, 0x2BC), (0x2D7, 0x2D7), (0x303, 0x303), (0x331, 0x331), (0xE01, 0xE3A), (0xE40, 0xE5B)]

def tibetan : Script where
  names := ["Tibt", "Tibetan"]
  characters := .ofRanges
    [(0xF00, 0xF47), (0xF49, 0xF6C), (0xF71, 0xF97), (0xF99, 0xFBC), (0xFBE, 0xFCC), (0xFCE, 0xFD4),
     (0xFD9, 0xFDA)]
  users := some <| .ofRanges
    [(0xF00, 0xF47), (0xF49, 0xF6C), (0xF71, 0xF97), (0xF99, 0xFBC), (0xFBE, 0xFCC), (0xFCE, 0xFD4),
     (0xFD9, 0xFDA), (0x3008, 0x300B)]

def tifinagh : Script where
  names := ["Tfng", "Tifinagh"]
  characters := .ofRanges
    [(0x2D30, 0x2D67), (0x2D6F, 0x2D70), (0x2D7F, 0x2D7F)]
  users := some <| .ofRanges
    [(0x302, 0x302), (0x304, 0x304), (0x307, 0x307), (0x309, 0x309), (0x2D30, 0x2D67),
     (0x2D6F, 0x2D70), (0x2D7F, 0x2D7F)]

def tirhuta : Script where
  names := ["Tirh", "Tirhuta"]
  characters := .ofRanges
    [(0x11480, 0x114C7), (0x114D0, 0x114D9)]
  users := some <| .ofRanges
    [(0x951, 0x952), (0x964, 0x965), (0x1CF2, 0x1CF2), (0xA830, 0xA839), (0x11480, 0x114C7),
     (0x114D0, 0x114D9)]

def todhri : Script where
  names := ["Todr", "Todhri"]
  characters := .ofRanges
    [(0x105C0, 0x105F3)]
  users := some <| .ofRanges
    [(0x301, 0x301), (0x304, 0x304), (0x307, 0x307), (0x311, 0x311), (0x313, 0x313), (0x35E, 0x35E),
     (0x105C0, 0x105F3)]

def toto : Script where
  names := ["Toto", "Toto"]
  characters := .ofRanges
    [(0x1E290, 0x1E2AE)]
  users := some <| .ofRanges
    [(0x2BC, 0x2BC), (0x1E290, 0x1E2AE)]

def tuluTigalari : Script where
  names := ["Tutg", "Tulu_Tigalari"]
  characters := .ofRanges
    [(0x11380, 0x11389), (0x1138B, 0x1138B), (0x1138E, 0x1138E), (0x11390, 0x113B5),
     (0x113B7, 0x113C0), (0x113C2, 0x113C2), (0x113C5, 0x113C5), (0x113C7, 0x113CA),
     (0x113CC, 0x113D5), (0x113D7, 0x113D8), (0x113E1, 0x113E2)]
  users := some <| .ofRanges
    [(0xCE6, 0xCEF), (0x1CF2, 0x1CF2), (0x1CF4, 0x1CF4), (0xA830, 0xA835), (0xA8F1, 0xA8F1),
     (0x11380, 0x11389), (0x1138B, 0x1138B), (0x1138E, 0x1138E), (0x11390, 0x113B5),
     (0x113B7, 0x113C0), (0x113C2, 0x113C2), (0x113C5, 0x113C5), (0x113C7, 0x113CA),
     (0x113CC, 0x113D5), (0x113D7, 0x113D8), (0x113E1, 0x113E2)]

def ugaritic : Script where
  names := ["Ugar", "Ugaritic"]
  characters := .ofRanges
    [(0x10380, 0x1039D), (0x1039F, 0x1039F)]
  users := none

def vai : Script where
  names := ["Vaii", "Vai"]
  characters := .ofRanges
    [(0xA500, 0xA62B)]
  users := none

def vithkuqi : Script where
  names := ["Vith", "Vithkuqi"]
  characters := .ofRanges
    [(0x10570, 0x1057A), (0x1057C, 0x1058A), (0x1058C, 0x10592), (0x10594, 0x10595),
     (0x10597, 0x105A1), (0x105A3, 0x105B1), (0x105B3, 0x105B9), (0x105BB, 0x105BC)]
  users := none

def wancho : Script where
  names := ["Wcho", "Wancho"]
  characters := .ofRanges
    [(0x1E2C0, 0x1E2F9), (0x1E2FF, 0x1E2FF)]
  users := none

def warangCiti : Script where
  names := ["Wara", "Warang_Citi"]
  characters := .ofRanges
    [(0x118A0, 0x118F2), (0x118FF, 0x118FF)]
  users := none

def yezidi : Script where
  names := ["Yezi", "Yezidi"]
  characters := .ofRanges
    [(0x10E80, 0x10EA9), (0x10EAB, 0x10EAD), (0x10EB0, 0x10EB1)]
  users := some <| .ofRanges
    [(0x60C, 0x60C), (0x61B, 0x61B), (0x61F, 0x61F), (0x660, 0x669), (0x10E80, 0x10EA9),
     (0x10EAB, 0x10EAD), (0x10EB0, 0x10EB1)]

def yi : Script where
  names := ["Yiii", "Yi"]
  characters := .ofRanges
    [(0xA000, 0xA48C), (0xA490, 0xA4C6)]
  users := some <| .ofRanges
    [(0x3001, 0x3002), (0x3008, 0x3011), (0x3014, 0x301B), (0x30FB, 0x30FB), (0xA000, 0xA48C),
     (0xA490, 0xA4C6), (0xFF61, 0xFF65)]

def zanabazarSquare : Script where
  names := ["Zanb", "Zanabazar_Square"]
  characters := .ofRanges
    [(0x11A00, 0x11A47)]
  users := none

/-- The scripts of this module. -/
def ptoZ : List Script :=
  [pahawhHmong, palmyrene, pauCinHau, phagsPa, phoenician, psalterPahlavi, rejang, runic,
   samaritan, saurashtra, sharada, shavian, siddham, signWriting, sinhala, sogdian, soraSompeng,
   soyombo, sundanese, sunuwar, sylotiNagri, syriac, tagalog, tagbanwa, taiLe, taiTham, taiViet,
   takri, tamil, tangsa, tangut, telugu, thaana, thai, tibetan, tifinagh, tirhuta, todhri, toto,
   tuluTigalari, ugaritic, vai, vithkuqi, wancho, warangCiti, yezidi, yi, zanabazarSquare]

end EventQuery.Script
