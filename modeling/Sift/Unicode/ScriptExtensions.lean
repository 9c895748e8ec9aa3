import Sift.Unicode.Scripts

/-!
# Characters of several scripts

Some characters belong to no script of their own, or to a script by name, but occur in others too.
The table is that of version 15.0 of Unicode.

## Main definitions

* `Sift.scriptExtensions`: for each script the characters that it has apart from its own.
-/

set_option autoImplicit false

namespace Sift

/-- What scripts with an abbreviation from A to F have apart from their own characters. -/
def scriptExtensionsAF : List (String × Ranges) :=
  [("adlm",
      [(0x61F, 0x61F), (0x640, 0x640)]),
    ("arab",
      [(0x60C, 0x60C), (0x61B, 0x61B), (0x61F, 0x61F), (0x640, 0x640), (0x64B, 0x655),
      (0x670, 0x670), (0xFD3E, 0xFD3F), (0x102E0, 0x102FB)]),
    ("beng",
      [(0x951, 0x952), (0x964, 0x965), (0x1CD0, 0x1CD0), (0x1CD2, 0x1CD2), (0x1CD5, 0x1CD6),
      (0x1CD8, 0x1CD8), (0x1CE1, 0x1CE1), (0x1CEA, 0x1CEA), (0x1CED, 0x1CED), (0x1CF2, 0x1CF2),
      (0x1CF5, 0x1CF7), (0xA8F1, 0xA8F1)]),
    ("bopo",
      [(0x3001, 0x3003), (0x3008, 0x3011), (0x3013, 0x301F), (0x302A, 0x302D), (0x3030, 0x3030),
      (0x3037, 0x3037), (0x30FB, 0x30FB), (0xFE45, 0xFE46), (0xFF61, 0xFF65)]),
    ("bugi",
      [(0xA9CF, 0xA9CF)]),
    ("buhd",
      [(0x1735, 0x1736)]),
    ("cakm",
      [(0x9E6, 0x9EF), (0x1040, 0x1049)]),
    ("copt",
      [(0x102E0, 0x102FB)]),
    ("cpmn",
      [(0x10100, 0x10101)]),
    ("cprt",
      [(0x10100, 0x10102), (0x10107, 0x10133), (0x10137, 0x1013F)]),
    ("cyrl",
      [(0x485, 0x486), (0x1DF8, 0x1DF8), (0x2E43, 0x2E43)]),
    ("deva",
      [(0x951, 0x952), (0x964, 0x965), (0x1CD0, 0x1CF6), (0x1CF8, 0x1CF9), (0x20F0, 0x20F0),
      (0xA830, 0xA839)]),
    ("dogr",
      [(0x964, 0x96F), (0xA830, 0xA839)]),
    ("dupl",
      [(0x1BCA0, 0x1BCA3)])]

/-- What scripts with an abbreviation from G to K have apart from their own characters. -/
def scriptExtensionsGK : List (String × Ranges) :=
  [("geor",
      [(0x10FB, 0x10FB)]),
    ("glag",
      [(0x484, 0x484), (0x487, 0x487), (0x2E43, 0x2E43), (0xA66F, 0xA66F)]),
    ("gong",
      [(0x964, 0x965)]),
    ("gonm",
      [(0x964, 0x965)]),
    ("gran",
      [(0x951, 0x952), (0x964, 0x965), (0xBE6, 0xBF3), (0x1CD0, 0x1CD0), (0x1CD2, 0x1CD3),
      (0x1CF2, 0x1CF4), (0x1CF8, 0x1CF9), (0x20F0, 0x20F0), (0x1133B, 0x1133B), (0x11FD0, 0x11FD1),
      (0x11FD3, 0x11FD3)]),
    ("grek",
      [(0x342, 0x342), (0x345, 0x345), (0x1DC0, 0x1DC1)]),
    ("gujr",
      [(0x951, 0x952), (0x964, 0x965), (0xA830, 0xA839)]),
    ("guru",
      [(0x951, 0x952), (0x964, 0x965), (0xA830, 0xA839)]),
    ("hang",
      [(0x3001, 0x3003), (0x3008, 0x3011), (0x3013, 0x301F), (0x3030, 0x3030), (0x3037, 0x3037),
      (0x30FB, 0x30FB), (0xFE45, 0xFE46), (0xFF61, 0xFF65)]),
    ("hani",
      [(0x3001, 0x3003), (0x3006, 0x3006), (0x3008, 0x3011), (0x3013, 0x301F), (0x302A, 0x302D),
      (0x3030, 0x3030), (0x3037, 0x3037), (0x303C, 0x303F), (0x30FB, 0x30FB), (0x3190, 0x319F),
      (0x31C0, 0x31E3), (0x3220, 0x3247), (0x3280, 0x32B0), (0x32C0, 0x32CB), (0x32FF, 0x32FF),
      (0x3358, 0x3370), (0x337B, 0x337F), (0x33E0, 0x33FE), (0xA700, 0xA707), (0xFE45, 0xFE46),
      (0xFF61, 0xFF65), (0x1D360, 0x1D371), (0x1F250, 0x1F251)]),
    ("hano",
      [(0x1735, 0x1736)]),
    ("hira",
      [(0x3001, 0x3003), (0x3008, 0x3011), (0x3013, 0x301F), (0x3030, 0x3035), (0x3037, 0x3037),
      (0x303C, 0x303D), (0x3099, 0x309C), (0x30A0, 0x30A0), (0x30FB, 0x30FC), (0xFE45, 0xFE46),
      (0xFF61, 0xFF65), (0xFF70, 0xFF70), (0xFF9E, 0xFF9F)]),
    ("java",
      [(0xA9CF, 0xA9CF)]),
    ("kali",
      [(0xA92E, 0xA92E)]),
    ("kana",
      [(0x3001, 0x3003), (0x3008, 0x3011), (0x3013, 0x301F), (0x3030, 0x3035), (0x3037, 0x3037),
      (0x303C, 0x303D), (0x3099, 0x309C), (0x30A0, 0x30A0), (0x30FB, 0x30FC), (0xFE45, 0xFE46),
      (0xFF61, 0xFF65), (0xFF70, 0xFF70), (0xFF9E, 0xFF9F)]),
    ("khoj",
      [(0xAE6, 0xAEF), (0xA830, 0xA839)]),
    ("knda",
      [(0x951, 0x952), (0x964, 0x965), (0x1CD0, 0x1CD0), (0x1CD2, 0x1CD2), (0x1CDA, 0x1CDA),
      (0x1CF2, 0x1CF2), (0x1CF4, 0x1CF4), (0xA830, 0xA835)]),
    ("kthi",
      [(0x966, 0x96F), (0xA830, 0xA839)])]

/-- What scripts with an abbreviation from L to P have apart from their own characters. -/
def scriptExtensionsLP : List (String × Ranges) :=
  [("latn",
      [(0x363, 0x36F), (0x485, 0x486), (0x951, 0x952), (0x10FB, 0x10FB), (0x202F, 0x202F),
      (0x20F0, 0x20F0), (0xA700, 0xA707), (0xA92E, 0xA92E)]),
    ("limb",
      [(0x965, 0x965)]),
    ("lina",
      [(0x10107, 0x10133)]),
    ("linb",
      [(0x10100, 0x10102), (0x10107, 0x10133), (0x10137, 0x1013F)]),
    ("mahj",
      [(0x964, 0x96F), (0xA830, 0xA839)]),
    ("mand",
      [(0x640, 0x640)]),
    ("mani",
      [(0x640, 0x640)]),
    ("mlym",
      [(0x951, 0x952), (0x964, 0x965), (0x1CDA, 0x1CDA), (0xA830, 0xA832)]),
    ("modi",
      [(0xA830, 0xA839)]),
    ("mong",
      [(0x1802, 0x1803), (0x1805, 0x1805), (0x202F, 0x202F)]),
    ("mult",
      [(0xA66, 0xA6F)]),
    ("mymr",
      [(0xA92E, 0xA92E)]),
    ("nand",
      [(0x964, 0x965), (0xCE6, 0xCEF), (0x1CE9, 0x1CE9), (0x1CF2, 0x1CF2), (0x1CFA, 0x1CFA),
      (0xA830, 0xA835)]),
    ("nkoo",
      [(0x60C, 0x60C), (0x61B, 0x61B), (0x61F, 0x61F), (0xFD3E, 0xFD3F)]),
    ("orya",
      [(0x951, 0x952), (0x964, 0x965), (0x1CDA, 0x1CDA), (0x1CF2, 0x1CF2)]),
    ("ougr",
      [(0x640, 0x640), (0x10AF2, 0x10AF2)]),
    ("perm",
      [(0x483, 0x483)]),
    ("phag",
      [(0x1802, 0x1803), (0x1805, 0x1805)]),
    ("phlp",
      [(0x640, 0x640)])]

/-- What scripts with an abbreviation from Q to Z have apart from their own characters. -/
def scriptExtensionsQZ : List (String × Ranges) :=
  [("rohg",
      [(0x60C, 0x60C), (0x61B, 0x61B), (0x61F, 0x61F), (0x640, 0x640), (0x6D4, 0x6D4)]),
    ("shrd",
      [(0x951, 0x951), (0x1CD7, 0x1CD7), (0x1CD9, 0x1CD9), (0x1CDC, 0x1CDD), (0x1CE0, 0x1CE0)]),
    ("sind",
      [(0x964, 0x965), (0xA830, 0xA839)]),
    ("sinh",
      [(0x964, 0x965)]),
    ("sogd",
      [(0x640, 0x640)]),
    ("sylo",
      [(0x964, 0x965), (0x9E6, 0x9EF)]),
    ("syrc",
      [(0x60C, 0x60C), (0x61B, 0x61C), (0x61F, 0x61F), (0x640, 0x640), (0x64B, 0x655),
      (0x670, 0x670), (0x1DF8, 0x1DF8), (0x1DFA, 0x1DFA)]),
    ("tagb",
      [(0x1735, 0x1736)]),
    ("takr",
      [(0x964, 0x965), (0xA830, 0xA839)]),
    ("tale",
      [(0x1040, 0x1049)]),
    ("taml",
      [(0x951, 0x952), (0x964, 0x965), (0x1CDA, 0x1CDA), (0xA8F3, 0xA8F3), (0x11301, 0x11301),
      (0x11303, 0x11303), (0x1133B, 0x1133C)]),
    ("telu",
      [(0x951, 0x952), (0x964, 0x965), (0x1CDA, 0x1CDA), (0x1CF2, 0x1CF2)]),
    ("tglg",
      [(0x1735, 0x1736)]),
    ("thaa",
      [(0x60C, 0x60C), (0x61B, 0x61C), (0x61F, 0x61F), (0x660, 0x669), (0xFDF2, 0xFDF2),
      (0xFDFD, 0xFDFD)]),
    ("tirh",
      [(0x951, 0x952), (0x964, 0x965), (0x1CF2, 0x1CF2), (0xA830, 0xA839)]),
    ("yezi",
      [(0x60C, 0x60C), (0x61B, 0x61B), (0x61F, 0x61F), (0x660, 0x669)]),
    ("yiii",
      [(0x3001, 0x3002), (0x3008, 0x3011), (0x3014, 0x301B), (0x30FB, 0x30FB), (0xFF61, 0xFF65)])]

/-- What the scripts have apart from their own characters, by the abbreviations of their names. -/
def scriptExtensions : List (String × Ranges) :=
  scriptExtensionsAF ++ scriptExtensionsGK ++ scriptExtensionsLP ++ scriptExtensionsQZ

end Sift
