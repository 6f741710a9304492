/-!
# Scripts

The characters that are written in the scripts that patterns may name.
-/

namespace Gatehouse
namespace Regex

/-- The names of scripts and the ranges of their characters. -/
def scripts : List (List String × List (Nat × Nat)) :=
  [(["latin", "latn"], [(0x41, 0x5A), (0x61, 0x7A), (0xAA, 0xAA), (0xBA, 0xBA),
    (0xC0, 0xD6), (0xD8, 0xF6), (0xF8, 0x2B8), (0x2E0, 0x2E4), (0x1D00, 0x1D25),
    (0x1D2C, 0x1D5C), (0x1D62, 0x1D65), (0x1D6B, 0x1D77), (0x1D79, 0x1DBE),
    (0x1E00, 0x1EFF), (0x2071, 0x2071), (0x207F, 0x207F), (0x2090, 0x209C),
    (0x212A, 0x212B), (0x2132, 0x2132), (0x214E, 0x214E), (0x2160, 0x2188),
    (0x2C60, 0x2C7F), (0xA722, 0xA787), (0xA78B, 0xA7CA), (0xA7D0, 0xA7D9),
    (0xA7F2, 0xA7FF), (0xAB30, 0xAB5A), (0xAB5C, 0xAB64), (0xAB66, 0xAB69),
    (0xFB00, 0xFB06), (0xFF21, 0xFF3A), (0xFF41, 0xFF5A), (0x1DF00, 0x1DF1E)]),
      (["greek", "grek"], [(0x370, 0x373), (0x375, 0x377), (0x37A, 0x37D), (0x37F, 0x37F),
        (0x384, 0x384), (0x386, 0x386), (0x388, 0x38A), (0x38C, 0x38C), (0x38E, 0x3A1),
        (0x3A3, 0x3E1), (0x3F0, 0x3FF), (0x1D26, 0x1D2A), (0x1D5D, 0x1D61),
        (0x1D66, 0x1D6A), (0x1DBF, 0x1DBF), (0x1F00, 0x1FFE), (0x2126, 0x2126),
        (0xAB65, 0xAB65), (0x10140, 0x1018E), (0x101A0, 0x101A0), (0x1D200, 0x1D245)]),
      (["cyrillic", "cyrl"],
        [(0x400, 0x484), (0x487, 0x52F), (0x1C80, 0x1C88), (0x1D2B, 0x1D2B),
          (0x1D78, 0x1D78), (0x2DE0, 0x2DFF), (0xA640, 0xA69F), (0xFE2E, 0xFE2F)]),
      (["armenian", "armn"], [(0x531, 0x58A), (0x58F, 0x58F), (0xFB13, 0xFB17)]),
      (["hebrew", "hebr"], [(0x591, 0x5C7), (0x5D0, 0x5F4), (0xFB1D, 0xFB4F)]),
      (["arabic", "arab"],
        [(0x606, 0x60A), (0x60C, 0x61B), (0x61D, 0x6DC), (0x6DE, 0x6EF), (0x6FA, 0x6FF),
          (0x750, 0x77F), (0x870, 0x88E), (0x898, 0x8E1), (0x8E3, 0x8FF),
          (0xFB50, 0xFBC2), (0xFBD3, 0xFD3D), (0xFD40, 0xFDC7), (0xFDCF, 0xFDCF),
          (0xFDF0, 0xFDFB), (0xFDFD, 0xFDFF), (0xFE70, 0xFEFC), (0x1EE00, 0x1EEBB),
          (0x1EEF0, 0x1EEF1)]),
      (["syriac", "syrc"], [(0x700, 0x70D), (0x710, 0x74F), (0x860, 0x86A)]),
      (["thaana", "thaa"], [(0x780, 0x7B1)]),
      (["devanagari", "deva"], [(0x900, 0x97F), (0xA8F2, 0xA8FF)]),
      (["bengali", "beng"], [(0x980, 0x9CE), (0x9D7, 0x9FE)]),
      (["gurmukhi", "guru"], [(0xA01, 0xA51), (0xA59, 0xA5E), (0xA66, 0xA76)]),
      (["gujarati", "gujr"], [(0xA81, 0xAD0), (0xAE0, 0xAF1), (0xAF9, 0xAFF)]),
      (["oriya", "orya"], [(0xB01, 0xB4D), (0xB55, 0xB77)]),
      (["tamil", "taml"], [(0xB82, 0xBD7), (0xBE6, 0xBFA), (0x11FC0, 0x11FF1),
        (0x11FFF, 0x11FFF)]),
      (["telugu", "telu"], [(0xC00, 0xC4D), (0xC55, 0xC6F), (0xC77, 0xC7F)]),
      (["kannada", "knda"], [(0xC80, 0xCCD), (0xCD5, 0xCF2)]),
      (["malayalam", "mlym"], [(0xD00, 0xD7F)]),
      (["sinhala", "sinh"], [(0xD81, 0xDF4), (0x111E1, 0x111F4)]),
      (["thai"], [(0xE01, 0xE5B)]), (["lao", "laoo"], [(0xE81, 0xEDF)]),
      (["tibetan", "tibt"], [(0xF00, 0xFD4), (0xFD9, 0xFDA)]),
      (["myanmar", "mymr"], [(0x1000, 0x109F), (0xA9E0, 0xA9FE), (0xAA60, 0xAA7F)]),
      (["georgian", "geor"],
        [(0x10A0, 0x10FB), (0x10FD, 0x10FF), (0x1C90, 0x1CBF), (0x2D00, 0x2D2D)]),
      (["hangul", "hang"],
        [(0x1100, 0x11FF), (0x302E, 0x302F), (0x3131, 0x318E), (0xA960, 0xA97C),
          (0xAC00, 0xD7A3), (0xD7B0, 0xD7FB), (0xFFA0, 0xFFDC)]),
      (["ethiopic", "ethi"],
        [(0x1200, 0x1399), (0x2D80, 0x2D96), (0x2DA0, 0x2DDE), (0xAB01, 0xAB16),
          (0xAB20, 0xAB2E), (0x1E7E0, 0x1E7FE)]),
      (["cherokee", "cher"], [(0x13A0, 0x13FD), (0xAB70, 0xABBF)]),
      (["ogham", "ogam"], [(0x1680, 0x169C)]), (["runic", "runr"], [(0x16A0, 0x16F8)]),
      (["khmer", "khmr"], [(0x1780, 0x17F9), (0x19E0, 0x19FF)]),
      (["mongolian", "mong"],
        [(0x1800, 0x180D), (0x180F, 0x1878), (0x1880, 0x18AA), (0x11660, 0x1166C)]),
      (["hiragana", "hira"],
        [(0x3041, 0x3096), (0x309D, 0x309F), (0x1B001, 0x1B001), (0x1B11F, 0x1B11F),
          (0x1B150, 0x1B152)]),
      (["katakana", "kana"],
        [(0x309B, 0x309C), (0x30A0, 0x30FF), (0x31F0, 0x31FF), (0xFF65, 0xFF9F),
          (0x1AFF0, 0x1B000), (0x1B120, 0x1B122), (0x1B164, 0x1B167)]),
      (["bopomofo", "bopo"], [(0x3105, 0x312F), (0x31A0, 0x31BF)]),
      (["han", "hani"], [(0x2E80, 0x2EF3), (0x2F00, 0x2FD5), (0x3005, 0x3005),
        (0x3007, 0x3007), (0x3400, 0x4DBF), (0x4E00, 0x9FFF), (0xF900, 0xFAD9),
        (0x20000, 0x2A6DF), (0x2A700, 0x2B738), (0x2B740, 0x2CEA1), (0x2CEB0, 0x2EBE0),
        (0x2F800, 0x2FA1D), (0x30000, 0x3134A)]),
      (["yi", "yiii"], [(0xA000, 0xA4C6)]), (["gothic", "goth"], [(0x10330, 0x1034A)]),
      (["deseret", "dsrt"], [(0x10400, 0x1044F)]),
      (["braille", "brai"], [(0x2800, 0x28FF)]),
      (["coptic", "copt"], [(0x3E2, 0x3EF), (0x2C80, 0x2CFF), (0x102E0, 0x102FB)])]

/-- Whether a number lies in one of several ranges. -/
def inRanges (ranges : List (Nat × Nat)) (code : Nat) : Bool :=
  ranges.any fun (first, last) => first ≤ code && code ≤ last

end Regex
end Gatehouse
