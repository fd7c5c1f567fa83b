import EventQuery.Text.Script.Basic

/-!
# Scripts, osmanya]

The characters of each script, by the English name of the script.
-/

namespace EventQuery.Script

def imperialAramaic : Script where
  names := ["Armi", "Imperial_Aramaic"]
  characters := .ofRanges
    [(0x10840, 0x10855), (0x10857, 0x1085F)]
  users := none

def inherited : Script where
  names := ["Zinh", "Inherited", "Qaai"]
  characters := .ofRanges
    [(0x300, 0x36F), (0x485, 0x486), (0x64B, 0x655), (0x670, 0x670), (0x951, 0x954),
     (0x1AB0, 0x1ACE), (0x1CD0, 0x1CD2), (0x1CD4, 0x1CE0), (0x1CE2, 0x1CE8), (0x1CED, 0x1CED),
     (0x1CF4, 0x1CF4), (0x1CF8, 0x1CF9), (0x1DC0, 0x1DFF), (0x200C, 0x200D), (0x20D0, 0x20F0),
     (0x302A, 0x302D), (0x3099, 0x309A), (0xFE00, 0xFE0F), (0xFE20, 0xFE2D), (0x101FD, 0x101FD),
     (0x102E0, 0x102E0), (0x1133B, 0x1133B), (0x1CF00, 0x1CF2D), (0x1CF30, 0x1CF46),
     (0x1D167, 0x1D169), (0x1D17B, 0x1D182), (0x1D185, 0x1D18B), (0x1D1AA, 0x1D1AD),
     (0xE0100, 0xE01EF)]
  users := some <| .ofRanges
    [(0x30F, 0x30F), (0x312, 0x312), (0x314, 0x31F), (0x321, 0x322), (0x326, 0x32C), (0x32F, 0x32F),
     (0x332, 0x341), (0x343, 0x344), (0x346, 0x357), (0x359, 0x35D), (0x35F, 0x362), (0x953, 0x954),
     (0x1AB0, 0x1ACE), (0x1DC2, 0x1DF7), (0x1DF9, 0x1DF9), (0x1DFB, 0x1DFF), (0x200C, 0x200D),
     (0x20D0, 0x20EF), (0xFE00, 0xFE0F), (0xFE20, 0xFE2D), (0x101FD, 0x101FD), (0x1CF00, 0x1CF2D),
     (0x1CF30, 0x1CF46), (0x1D167, 0x1D169), (0x1D17B, 0x1D182), (0x1D185, 0x1D18B),
     (0x1D1AA, 0x1D1AD), (0xE0100, 0xE01EF)]

def inscriptionalPahlavi : Script where
  names := ["Phli", "Inscriptional_Pahlavi"]
  characters := .ofRanges
    [(0x10B60, 0x10B72), (0x10B78, 0x10B7F)]
  users := none

def inscriptionalParthian : Script where
  names := ["Prti", "Inscriptional_Parthian"]
  characters := .ofRanges
    [(0x10B40, 0x10B55), (0x10B58, 0x10B5F)]
  users := none

def javanese : Script where
  names := ["Java", "Javanese"]
  characters := .ofRanges
    [(0xA980, 0xA9CD), (0xA9D0, 0xA9D9), (0xA9DE, 0xA9DF)]
  users := some <| .ofRanges
    [(0xA980, 0xA9CD), (0xA9CF, 0xA9D9), (0xA9DE, 0xA9DF)]

def kaithi : Script where
  names := ["Kthi", "Kaithi"]
  characters := .ofRanges
    [(0x11080, 0x110C2), (0x110CD, 0x110CD)]
  users := some <| .ofRanges
    [(0x966, 0x96F), (0x2E31, 0x2E31), (0xA830, 0xA839), (0x11080, 0x110C2), (0x110CD, 0x110CD)]

def kannada : Script where
  names := ["Knda", "Kannada"]
  characters := .ofRanges
    [(0xC80, 0xC8C), (0xC8E, 0xC90), (0xC92, 0xCA8), (0xCAA, 0xCB3), (0xCB5, 0xCB9), (0xCBC, 0xCC4),
     (0xCC6, 0xCC8), (0xCCA, 0xCCD), (0xCD5, 0xCD6), (0xCDD, 0xCDE), (0xCE0, 0xCE3), (0xCE6, 0xCEF),
     (0xCF1, 0xCF3)]
  users := some <| .ofRanges
    [(0x951, 0x952), (0x964, 0x965), (0xC80, 0xC8C), (0xC8E, 0xC90), (0xC92, 0xCA8), (0xCAA, 0xCB3),
     (0xCB5, 0xCB9), (0xCBC, 0xCC4), (0xCC6, 0xCC8), (0xCCA, 0xCCD), (0xCD5, 0xCD6), (0xCDD, 0xCDE),
     (0xCE0, 0xCE3), (0xCE6, 0xCEF), (0xCF1, 0xCF3), (0x1CD0, 0x1CD0), (0x1CD2, 0x1CD3),
     (0x1CDA, 0x1CDA), (0x1CF2, 0x1CF2), (0x1CF4, 0x1CF4), (0xA830, 0xA835)]

def katakana : Script where
  names := ["Kana", "Katakana"]
  characters := .ofRanges
    [(0x30A1, 0x30FA), (0x30FD, 0x30FF), (0x31F0, 0x31FF), (0x32D0, 0x32FE), (0x3300, 0x3357),
     (0xFF66, 0xFF6F), (0xFF71, 0xFF9D), (0x1AFF0, 0x1AFF3), (0x1AFF5, 0x1AFFB), (0x1AFFD, 0x1AFFE),
     (0x1B000, 0x1B000), (0x1B120, 0x1B122), (0x1B155, 0x1B155), (0x1B164, 0x1B167)]
  users := some <| .ofRanges
    [(0x305, 0x305), (0x323, 0x323), (0x3001, 0x3003), (0x3008, 0x3011), (0x3013, 0x301F),
     (0x3030, 0x3035), (0x3037, 0x3037), (0x303C, 0x303D), (0x3099, 0x309C), (0x30A0, 0x30FF),
     (0x31F0, 0x31FF), (0x32D0, 0x32FE), (0x3300, 0x3357), (0xFE45, 0xFE46), (0xFF61, 0xFF9F),
     (0x1AFF0, 0x1AFF3), (0x1AFF5, 0x1AFFB), (0x1AFFD, 0x1AFFE), (0x1B000, 0x1B000),
     (0x1B120, 0x1B122), (0x1B155, 0x1B155), (0x1B164, 0x1B167)]

def kawi : Script where
  names := ["Kawi", "Kawi"]
  characters := .ofRanges
    [(0x11F00, 0x11F10), (0x11F12, 0x11F3A), (0x11F3E, 0x11F5A)]
  users := none

def kayahLi : Script where
  names := ["Kali", "Kayah_Li"]
  characters := .ofRanges
    [(0xA900, 0xA92D), (0xA92F, 0xA92F)]
  users := some <| .ofRanges
    [(0xA900, 0xA92F)]

def kharoshthi : Script where
  names := ["Khar", "Kharoshthi"]
  characters := .ofRanges
    [(0x10A00, 0x10A03), (0x10A05, 0x10A06), (0x10A0C, 0x10A13), (0x10A15, 0x10A17),
     (0x10A19, 0x10A35), (0x10A38, 0x10A3A), (0x10A3F, 0x10A48), (0x10A50, 0x10A58)]
  users := none

def khitanSmallScript : Script where
  names := ["Kits", "Khitan_Small_Script"]
  characters := .ofRanges
    [(0x16FE4, 0x16FE4), (0x18B00, 0x18CD5), (0x18CFF, 0x18CFF)]
  users := none

def khmer : Script where
  names := ["Khmr", "Khmer"]
  characters := .ofRanges
    [(0x1780, 0x17DD), (0x17E0, 0x17E9), (0x17F0, 0x17F9), (0x19E0, 0x19FF)]
  users := none

def khojki : Script where
  names := ["Khoj", "Khojki"]
  characters := .ofRanges
    [(0x11200, 0x11211), (0x11213, 0x11241)]
  users := some <| .ofRanges
    [(0xAE6, 0xAEF), (0xA830, 0xA839), (0x11200, 0x11211), (0x11213, 0x11241)]

def khudawadi : Script where
  names := ["Sind", "Khudawadi"]
  characters := .ofRanges
    [(0x112B0, 0x112EA), (0x112F0, 0x112F9)]
  users := some <| .ofRanges
    [(0x964, 0x965), (0xA830, 0xA839), (0x112B0, 0x112EA), (0x112F0, 0x112F9)]

def kiratRai : Script where
  names := ["Krai", "Kirat_Rai"]
  characters := .ofRanges
    [(0x16D40, 0x16D79)]
  users := none

def lao : Script where
  names := ["Laoo", "Lao"]
  characters := .ofRanges
    [(0xE81, 0xE82), (0xE84, 0xE84), (0xE86, 0xE8A), (0xE8C, 0xEA3), (0xEA5, 0xEA5), (0xEA7, 0xEBD),
     (0xEC0, 0xEC4), (0xEC6, 0xEC6), (0xEC8, 0xECE), (0xED0, 0xED9), (0xEDC, 0xEDF)]
  users := none

def latin : Script where
  names := ["Latn", "Latin"]
  characters := .ofRanges
    [(0x41, 0x5A), (0x61, 0x7A), (0xAA, 0xAA), (0xBA, 0xBA), (0xC0, 0xD6), (0xD8, 0xF6),
     (0xF8, 0x2B8), (0x2E0, 0x2E4), (0x1D00, 0x1D25), (0x1D2C, 0x1D5C), (0x1D62, 0x1D65),
     (0x1D6B, 0x1D77), (0x1D79, 0x1DBE), (0x1E00, 0x1EFF), (0x2071, 0x2071), (0x207F, 0x207F),
     (0x2090, 0x209C), (0x212A, 0x212B), (0x2132, 0x2132), (0x214E, 0x214E), (0x2160, 0x2188),
     (0x2C60, 0x2C7F), (0xA722, 0xA787), (0xA78B, 0xA7CD), (0xA7D0, 0xA7D1), (0xA7D3, 0xA7D3),
     (0xA7D5, 0xA7DC), (0xA7F2, 0xA7FF), (0xAB30, 0xAB5A), (0xAB5C, 0xAB64), (0xAB66, 0xAB69),
     (0xFB00, 0xFB06), (0xFF21, 0xFF3A), (0xFF41, 0xFF5A), (0x10780, 0x10785), (0x10787, 0x107B0),
     (0x107B2, 0x107BA), (0x1DF00, 0x1DF1E), (0x1DF25, 0x1DF2A)]
  users := some <| .ofRanges
    [(0x41, 0x5A), (0x61, 0x7A), (0xAA, 0xAA), (0xB7, 0xB7), (0xBA, 0xBA), (0xC0, 0xD6),
     (0xD8, 0xF6), (0xF8, 0x2B8), (0x2BC, 0x2BC), (0x2C7, 0x2C7), (0x2C9, 0x2CB), (0x2CD, 0x2CD),
     (0x2D7, 0x2D7), (0x2D9, 0x2D9), (0x2E0, 0x2E4), (0x300, 0x30E), (0x310, 0x311), (0x313, 0x313),
     (0x320, 0x320), (0x323, 0x325), (0x32D, 0x32E), (0x330, 0x331), (0x358, 0x358), (0x35E, 0x35E),
     (0x363, 0x36F), (0x485, 0x486), (0x951, 0x952), (0x10FB, 0x10FB), (0x1D00, 0x1D25),
     (0x1D2C, 0x1D5C), (0x1D62, 0x1D65), (0x1D6B, 0x1D77), (0x1D79, 0x1DBE), (0x1DF8, 0x1DF8),
     (0x1E00, 0x1EFF), (0x202F, 0x202F), (0x2071, 0x2071), (0x207F, 0x207F), (0x2090, 0x209C),
     (0x20F0, 0x20F0), (0x212A, 0x212B), (0x2132, 0x2132), (0x214E, 0x214E), (0x2160, 0x2188),
     (0x2C60, 0x2C7F), (0x2E17, 0x2E17), (0xA700, 0xA707), (0xA722, 0xA787), (0xA78B, 0xA7CD),
     (0xA7D0, 0xA7D1), (0xA7D3, 0xA7D3), (0xA7D5, 0xA7DC), (0xA7F2, 0xA7FF), (0xA92E, 0xA92E),
     (0xAB30, 0xAB5A), (0xAB5C, 0xAB64), (0xAB66, 0xAB69), (0xFB00, 0xFB06), (0xFF21, 0xFF3A),
     (0xFF41, 0xFF5A), (0x10780, 0x10785), (0x10787, 0x107B0), (0x107B2, 0x107BA),
     (0x1DF00, 0x1DF1E), (0x1DF25, 0x1DF2A)]

def lepcha : Script where
  names := ["Lepc", "Lepcha"]
  characters := .ofRanges
    [(0x1C00, 0x1C37), (0x1C3B, 0x1C49), (0x1C4D, 0x1C4F)]
  users := none

def limbu : Script where
  names := ["Limb", "Limbu"]
  characters := .ofRanges
    [(0x1900, 0x191E), (0x1920, 0x192B), (0x1930, 0x193B), (0x1940, 0x1940), (0x1944, 0x194F)]
  users := some <| .ofRanges
    [(0x965, 0x965), (0x1900, 0x191E), (0x1920, 0x192B), (0x1930, 0x193B), (0x1940, 0x1940),
     (0x1944, 0x194F)]

def linearA : Script where
  names := ["Lina", "Linear_A"]
  characters := .ofRanges
    [(0x10600, 0x10736), (0x10740, 0x10755), (0x10760, 0x10767)]
  users := some <| .ofRanges
    [(0x10107, 0x10133), (0x10600, 0x10736), (0x10740, 0x10755), (0x10760, 0x10767)]

def linearB : Script where
  names := ["Linb", "Linear_B"]
  characters := .ofRanges
    [(0x10000, 0x1000B), (0x1000D, 0x10026), (0x10028, 0x1003A), (0x1003C, 0x1003D),
     (0x1003F, 0x1004D), (0x10050, 0x1005D), (0x10080, 0x100FA)]
  users := some <| .ofRanges
    [(0x10000, 0x1000B), (0x1000D, 0x10026), (0x10028, 0x1003A), (0x1003C, 0x1003D),
     (0x1003F, 0x1004D), (0x10050, 0x1005D), (0x10080, 0x100FA), (0x10100, 0x10102),
     (0x10107, 0x10133), (0x10137, 0x1013F)]

def lisu : Script where
  names := ["Lisu", "Lisu"]
  characters := .ofRanges
    [(0xA4D0, 0xA4FF), (0x11FB0, 0x11FB0)]
  users := some <| .ofRanges
    [(0x2BC, 0x2BC), (0x2CD, 0x2CD), (0x300A, 0x300B), (0xA4D0, 0xA4FF), (0x11FB0, 0x11FB0)]

def lycian : Script where
  names := ["Lyci", "Lycian"]
  characters := .ofRanges
    [(0x10280, 0x1029C)]
  users := some <| .ofRanges
    [(0x205A, 0x205A), (0x10280, 0x1029C)]

def lydian : Script where
  names := ["Lydi", "Lydian"]
  characters := .ofRanges
    [(0x10920, 0x10939), (0x1093F, 0x1093F)]
  users := some <| .ofRanges
    [(0xB7, 0xB7), (0x2E31, 0x2E31), (0x10920, 0x10939), (0x1093F, 0x1093F)]

def mahajani : Script where
  names := ["Mahj", "Mahajani"]
  characters := .ofRanges
    [(0x11150, 0x11176)]
  users := some <| .ofRanges
    [(0xB7, 0xB7), (0x964, 0x96F), (0xA830, 0xA839), (0x11150, 0x11176)]

def makasar : Script where
  names := ["Maka", "Makasar"]
  characters := .ofRanges
    [(0x11EE0, 0x11EF8)]
  users := none

def malayalam : Script where
  names := ["Mlym", "Malayalam"]
  characters := .ofRanges
    [(0xD00, 0xD0C), (0xD0E, 0xD10), (0xD12, 0xD44), (0xD46, 0xD48), (0xD4A, 0xD4F), (0xD54, 0xD63),
     (0xD66, 0xD7F)]
  users := some <| .ofRanges
    [(0x951, 0x952), (0x964, 0x965), (0xD00, 0xD0C), (0xD0E, 0xD10), (0xD12, 0xD44), (0xD46, 0xD48),
     (0xD4A, 0xD4F), (0xD54, 0xD63), (0xD66, 0xD7F), (0x1CDA, 0x1CDA), (0x1CF2, 0x1CF2),
     (0xA830, 0xA832)]

def mandaic : Script where
  names := ["Mand", "Mandaic"]
  characters := .ofRanges
    [(0x840, 0x85B), (0x85E, 0x85E)]
  users := some <| .ofRanges
    [(0x640, 0x640), (0x840, 0x85B), (0x85E, 0x85E)]

def manichaean : Script where
  names := ["Mani", "Manichaean"]
  characters := .ofRanges
    [(0x10AC0, 0x10AE6), (0x10AEB, 0x10AF6)]
  users := some <| .ofRanges
    [(0x640, 0x640), (0x10AC0, 0x10AE6), (0x10AEB, 0x10AF6)]

def marchen : Script where
  names := ["Marc", "Marchen"]
  characters := .ofRanges
    [(0x11C70, 0x11C8F), (0x11C92, 0x11CA7), (0x11CA9, 0x11CB6)]
  users := none

def masaramGondi : Script where
  names := ["Gonm", "Masaram_Gondi"]
  characters := .ofRanges
    [(0x11D00, 0x11D06), (0x11D08, 0x11D09), (0x11D0B, 0x11D36), (0x11D3A, 0x11D3A),
     (0x11D3C, 0x11D3D), (0x11D3F, 0x11D47), (0x11D50, 0x11D59)]
  users := some <| .ofRanges
    [(0x964, 0x965), (0x11D00, 0x11D06), (0x11D08, 0x11D09), (0x11D0B, 0x11D36), (0x11D3A, 0x11D3A),
     (0x11D3C, 0x11D3D), (0x11D3F, 0x11D47), (0x11D50, 0x11D59)]

def medefaidrin : Script where
  names := ["Medf", "Medefaidrin"]
  characters := .ofRanges
    [(0x16E40, 0x16E9A)]
  users := none

def meeteiMayek : Script where
  names := ["Mtei", "Meetei_Mayek"]
  characters := .ofRanges
    [(0xAAE0, 0xAAF6), (0xABC0, 0xABED), (0xABF0, 0xABF9)]
  users := none

def mendeKikakui : Script where
  names := ["Mend", "Mende_Kikakui"]
  characters := .ofRanges
    [(0x1E800, 0x1E8C4), (0x1E8C7, 0x1E8D6)]
  users := none

def meroiticCursive : Script where
  names := ["Merc", "Meroitic_Cursive"]
  characters := .ofRanges
    [(0x109A0, 0x109B7), (0x109BC, 0x109CF), (0x109D2, 0x109FF)]
  users := none

def meroiticHieroglyphs : Script where
  names := ["Mero", "Meroitic_Hieroglyphs"]
  characters := .ofRanges
    [(0x10980, 0x1099F)]
  users := some <| .ofRanges
    [(0x205D, 0x205D), (0x10980, 0x1099F)]

def miao : Script where
  names := ["Plrd", "Miao"]
  characters := .ofRanges
    [(0x16F00, 0x16F4A), (0x16F4F, 0x16F87), (0x16F8F, 0x16F9F)]
  users := none

def modi : Script where
  names := ["Modi", "Modi"]
  characters := .ofRanges
    [(0x11600, 0x11644), (0x11650, 0x11659)]
  users := some <| .ofRanges
    [(0xA830, 0xA839), (0x11600, 0x11644), (0x11650, 0x11659)]

def mongolian : Script where
  names := ["Mong", "Mongolian"]
  characters := .ofRanges
    [(0x1800, 0x1801), (0x1804, 0x1804), (0x1806, 0x1819), (0x1820, 0x1878), (0x1880, 0x18AA),
     (0x11660, 0x1166C)]
  users := some <| .ofRanges
    [(0x1800, 0x1819), (0x1820, 0x1878), (0x1880, 0x18AA), (0x202F, 0x202F), (0x3001, 0x3002),
     (0x3008, 0x300B), (0x11660, 0x1166C)]

def mro : Script where
  names := ["Mroo", "Mro"]
  characters := .ofRanges
    [(0x16A40, 0x16A5E), (0x16A60, 0x16A69), (0x16A6E, 0x16A6F)]
  users := none

def multani : Script where
  names := ["Mult", "Multani"]
  characters := .ofRanges
    [(0x11280, 0x11286), (0x11288, 0x11288), (0x1128A, 0x1128D), (0x1128F, 0x1129D),
     (0x1129F, 0x112A9)]
  users := some <| .ofRanges
    [(0xA66, 0xA6F), (0x11280, 0x11286), (0x11288, 0x11288), (0x1128A, 0x1128D), (0x1128F, 0x1129D),
     (0x1129F, 0x112A9)]

def myanmar : Script where
  names := ["Mymr", "Myanmar"]
  characters := .ofRanges
    [(0x1000, 0x109F), (0xA9E0, 0xA9FE), (0xAA60, 0xAA7F), (0x116D0, 0x116E3)]
  users := some <| .ofRanges
    [(0x1000, 0x109F), (0xA92E, 0xA92E), (0xA9E0, 0xA9FE), (0xAA60, 0xAA7F), (0x116D0, 0x116E3)]

def nabataean : Script where
  names := ["Nbat", "Nabataean"]
  characters := .ofRanges
    [(0x10880, 0x1089E), (0x108A7, 0x108AF)]
  users := none

def nagMundari : Script where
  names := ["Nagm", "Nag_Mundari"]
  characters := .ofRanges
    [(0x1E4D0, 0x1E4F9)]
  users := none

def nandinagari : Script where
  names := ["Nand", "Nandinagari"]
  characters := .ofRanges
    [(0x119A0, 0x119A7), (0x119AA, 0x119D7), (0x119DA, 0x119E4)]
  users := some <| .ofRanges
    [(0x964, 0x965), (0xCE6, 0xCEF), (0x1CE9, 0x1CE9), (0x1CF2, 0x1CF2), (0x1CFA, 0x1CFA),
     (0xA830, 0xA835), (0x119A0, 0x119A7), (0x119AA, 0x119D7), (0x119DA, 0x119E4)]

def newTaiLue : Script where
  names := ["Talu", "New_Tai_Lue"]
  characters := .ofRanges
    [(0x1980, 0x19AB), (0x19B0, 0x19C9), (0x19D0, 0x19DA), (0x19DE, 0x19DF)]
  users := none

def newa : Script where
  names := ["Newa", "Newa"]
  characters := .ofRanges
    [(0x11400, 0x1145B), (0x1145D, 0x11461)]
  users := none

def nko : Script where
  names := ["Nkoo", "Nko"]
  characters := .ofRanges
    [(0x7C0, 0x7FA), (0x7FD, 0x7FF)]
  users := some <| .ofRanges
    [(0x60C, 0x60C), (0x61B, 0x61B), (0x61F, 0x61F), (0x7C0, 0x7FA), (0x7FD, 0x7FF),
     (0xFD3E, 0xFD3F)]

def nushu : Script where
  names := ["Nshu", "Nushu"]
  characters := .ofRanges
    [(0x16FE1, 0x16FE1), (0x1B170, 0x1B2FB)]
  users := none

def nyiakengPuachueHmong : Script where
  names := ["Hmnp", "Nyiakeng_Puachue_Hmong"]
  characters := .ofRanges
    [(0x1E100, 0x1E12C), (0x1E130, 0x1E13D), (0x1E140, 0x1E149), (0x1E14E, 0x1E14F)]
  users := none

def ogham : Script where
  names := ["Ogam", "Ogham"]
  characters := .ofRanges
    [(0x1680, 0x169C)]
  users := none

def olChiki : Script where
  names := ["Olck", "Ol_Chiki"]
  characters := .ofRanges
    [(0x1C50, 0x1C7F)]
  users := none

def olOnal : Script where
  names := ["Onao", "Ol_Onal"]
  characters := .ofRanges
    [(0x1E5D0, 0x1E5FA), (0x1E5FF, 0x1E5FF)]
  users := some <| .ofRanges
    [(0x964, 0x965), (0x1E5D0, 0x1E5FA), (0x1E5FF, 0x1E5FF)]

def oldHungarian : Script where
  names := ["Hung", "Old_Hungarian"]
  characters := .ofRanges
    [(0x10C80, 0x10CB2), (0x10CC0, 0x10CF2), (0x10CFA, 0x10CFF)]
  users := some <| .ofRanges
    [(0x205A, 0x205A), (0x205D, 0x205D), (0x2E31, 0x2E31), (0x2E41, 0x2E41), (0x10C80, 0x10CB2),
     (0x10CC0, 0x10CF2), (0x10CFA, 0x10CFF)]

def oldItalic : Script where
  names := ["Ital", "Old_Italic"]
  characters := .ofRanges
    [(0x10300, 0x10323), (0x1032D, 0x1032F)]
  users := none

def oldNorthArabian : Script where
  names := ["Narb", "Old_North_Arabian"]
  characters := .ofRanges
    [(0x10A80, 0x10A9F)]
  users := none

def oldPermic : Script where
  names := ["Perm", "Old_Permic"]
  characters := .ofRanges
    [(0x10350, 0x1037A)]
  users := some <| .ofRanges
    [(0xB7, 0xB7), (0x300, 0x300), (0x306, 0x308), (0x313, 0x313), (0x483, 0x483),
     (0x10350, 0x1037A)]

def oldPersian : Script where
  names := ["Xpeo", "Old_Persian"]
  characters := .ofRanges
    [(0x103A0, 0x103C3), (0x103C8, 0x103D5)]
  users := none

def oldSogdian : Script where
  names := ["Sogo", "Old_Sogdian"]
  characters := .ofRanges
    [(0x10F00, 0x10F27)]
  users := none

def oldSouthArabian : Script where
  names := ["Sarb", "Old_South_Arabian"]
  characters := .ofRanges
    [(0x10A60, 0x10A7F)]
  users := none

def oldTurkic : Script where
  names := ["Orkh", "Old_Turkic"]
  characters := .ofRanges
    [(0x10C00, 0x10C48)]
  users := some <| .ofRanges
    [(0x205A, 0x205A), (0x2E30, 0x2E30), (0x10C00, 0x10C48)]

def oldUyghur : Script where
  names := ["Ougr", "Old_Uyghur"]
  characters := .ofRanges
    [(0x10F70, 0x10F89)]
  users := some <| .ofRanges
    [(0x640, 0x640), (0x10AF2, 0x10AF2), (0x10F70, 0x10F89)]

def oriya : Script where
  names := ["Orya", "Oriya"]
  characters := .ofRanges
    [(0xB01, 0xB03), (0xB05, 0xB0C), (0xB0F, 0xB10), (0xB13, 0xB28), (0xB2A, 0xB30), (0xB32, 0xB33),
     (0xB35, 0xB39), (0xB3C, 0xB44), (0xB47, 0xB48), (0xB4B, 0xB4D), (0xB55, 0xB57), (0xB5C, 0xB5D),
     (0xB5F, 0xB63), (0xB66, 0xB77)]
  users := some <| .ofRanges
    [(0x951, 0x952), (0x964, 0x965), (0xB01, 0xB03), (0xB05, 0xB0C), (0xB0F, 0xB10), (0xB13, 0xB28),
     (0xB2A, 0xB30), (0xB32, 0xB33), (0xB35, 0xB39), (0xB3C, 0xB44), (0xB47, 0xB48), (0xB4B, 0xB4D),
     (0xB55, 0xB57), (0xB5C, 0xB5D), (0xB5F, 0xB63), (0xB66, 0xB77), (0x1CDA, 0x1CDA),
     (0x1CF2, 0x1CF2)]

def osage : Script where
  names := ["Osge", "Osage"]
  characters := .ofRanges
    [(0x104B0, 0x104D3), (0x104D8, 0x104FB)]
  users := some <| .ofRanges
    [(0x301, 0x301), (0x304, 0x304), (0x30B, 0x30B), (0x358, 0x358), (0x104B0, 0x104D3),
     (0x104D8, 0x104FB)]

def osmanya : Script where
  names := ["Osma", "Osmanya"]
  characters := .ofRanges
    [(0x10480, 0x1049D), (0x104A0, 0x104A9)]
  users := none

/-- The scripts of this module. -/
def itoO : List Script :=
  [imperialAramaic, inherited, inscriptionalPahlavi, inscriptionalParthian, javanese, kaithi,
   kannada, katakana, kawi, kayahLi, kharoshthi, khitanSmallScript, khmer, khojki, khudawadi,
   kiratRai, lao, latin, lepcha, limbu, linearA, linearB, lisu, lycian, lydian, mahajani, makasar,
   malayalam, mandaic, manichaean, marchen, masaramGondi, medefaidrin, meeteiMayek, mendeKikakui,
   meroiticCursive, meroiticHieroglyphs, miao, modi, mongolian, mro, multani, myanmar, nabataean,
   nagMundari, nandinagari, newTaiLue, newa, nko, nushu, nyiakengPuachueHmong, ogham, olChiki,
   olOnal, oldHungarian, oldItalic, oldNorthArabian, oldPermic, oldPersian, oldSogdian,
   oldSouthArabian, oldTurkic, oldUyghur, oriya, osage, osmanya]

end EventQuery.Script
