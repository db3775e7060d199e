import Stockroom.Text.Spacing

/-!
# Joiners in domain names

Two characters without a visible form say that the letters beside them are joined or not. They
stand only where this can be seen: behind a sign that silences a vowel, and the one that parts
letters also between letters that are otherwise joined.
-/

namespace Stockroom.Url.Domain

/-- The signs that silence the vowel of the letter before them. -/
def silencing : Text.CharClass := ⟨
  [(0x94d, 0x94d), (0x9cd, 0x9cd), (0xa4d, 0xa4d), (0xacd, 0xacd), (0xb4d, 0xb4d), (0xbcd, 0xbcd),
   (0xc4d, 0xc4d), (0xccd, 0xccd), (0xd3b, 0xd3c), (0xd4d, 0xd4d), (0xdca, 0xdca), (0xe3a, 0xe3a),
   (0xeba, 0xeba), (0xf84, 0xf84), (0x1039, 0x103a), (0x1714, 0x1715), (0x1734, 0x1734),
   (0x17d2, 0x17d2), (0x1a60, 0x1a60), (0x1b44, 0x1b44), (0x1baa, 0x1bab), (0x1bf2, 0x1bf3),
   (0x2d7f, 0x2d7f), (0xa806, 0xa806), (0xa82c, 0xa82c), (0xa8c4, 0xa8c4), (0xa953, 0xa953),
   (0xa9c0, 0xa9c0), (0xaaf6, 0xaaf6), (0xabed, 0xabed), (0x10a3f, 0x10a3f), (0x11046, 0x11046),
   (0x11070, 0x11070), (0x1107f, 0x1107f), (0x110b9, 0x110b9), (0x11133, 0x11134),
   (0x111c0, 0x111c0), (0x11235, 0x11235), (0x112ea, 0x112ea), (0x1134d, 0x1134d),
   (0x113ce, 0x113d0), (0x11442, 0x11442), (0x114c2, 0x114c2), (0x115bf, 0x115bf),
   (0x1163f, 0x1163f), (0x116b6, 0x116b6), (0x1172b, 0x1172b), (0x11839, 0x11839),
   (0x1193d, 0x1193e), (0x119e0, 0x119e0), (0x11a34, 0x11a34), (0x11a47, 0x11a47),
   (0x11a99, 0x11a99), (0x11c3f, 0x11c3f), (0x11d44, 0x11d45), (0x11d97, 0x11d97),
   (0x11f41, 0x11f42), (0x1612f, 0x1612f)]⟩

/-- The letters that are joined to the next one. -/
def joinsNext : Text.CharClass := ⟨
  [(0x620, 0x620), (0x626, 0x626), (0x628, 0x628), (0x62a, 0x62e), (0x633, 0x63f), (0x641, 0x647),
   (0x649, 0x64a), (0x66e, 0x66f), (0x679, 0x687), (0x69a, 0x6bf), (0x6c1, 0x6c2), (0x6cc, 0x6cc),
   (0x6ce, 0x6ce), (0x6d0, 0x6d1), (0x6fa, 0x6fc), (0x6ff, 0x6ff), (0x712, 0x714), (0x71a, 0x71d),
   (0x71f, 0x727), (0x729, 0x729), (0x72b, 0x72b), (0x72d, 0x72e), (0x74e, 0x758), (0x75c, 0x76a),
   (0x76d, 0x770), (0x772, 0x772), (0x775, 0x777), (0x77a, 0x77f), (0x7ca, 0x7ea), (0x841, 0x845),
   (0x848, 0x848), (0x84a, 0x853), (0x855, 0x855), (0x860, 0x860), (0x862, 0x865), (0x868, 0x868),
   (0x886, 0x886), (0x889, 0x88d), (0x8a0, 0x8a9), (0x8af, 0x8b0), (0x8b3, 0x8b8), (0x8ba, 0x8c8),
   (0x1807, 0x1807), (0x1820, 0x1878), (0x1887, 0x18aa), (0xa840, 0xa872), (0xfb52, 0xfb81),
   (0xfb8e, 0xfba3), (0xfba6, 0xfbad), (0xfbd3, 0xfbd6), (0xfbe4, 0xfbe9), (0xfbf6, 0xfc36),
   (0xfc38, 0xfc5a), (0xfc5d, 0xfc5d), (0xfc66, 0xfc69), (0xfc6c, 0xfc6f), (0xfc72, 0xfc75),
   (0xfc78, 0xfc7f), (0xfc81, 0xfc87), (0xfc89, 0xfc89), (0xfc8c, 0xfc90), (0xfc93, 0xfcf1),
   (0xfcf5, 0xfd0c), (0xfd11, 0xfd28), (0xfd2d, 0xfd3b), (0xfd50, 0xfd8f), (0xfd92, 0xfdc7),
   (0xfdf2, 0xfdf2), (0xfdf5, 0xfdfc), (0xfe89, 0xfe8c), (0xfe8f, 0xfe92), (0xfe95, 0xfea8),
   (0xfeb1, 0xfeec), (0xfeef, 0xfef4), (0x10ac0, 0x10ac4), (0x10acd, 0x10acd), (0x10ad3, 0x10adc),
   (0x10ade, 0x10ae0), (0x10aeb, 0x10aee), (0x10b80, 0x10b80), (0x10b82, 0x10b82),
   (0x10b86, 0x10b88), (0x10b8a, 0x10b8b), (0x10b8d, 0x10b8d), (0x10b90, 0x10b90),
   (0x10bad, 0x10bae), (0x10d00, 0x10d21), (0x10d23, 0x10d23), (0x10f30, 0x10f32),
   (0x10f34, 0x10f44), (0x10f51, 0x10f53), (0x10f70, 0x10f73), (0x10f76, 0x10f81),
   (0x10fb0, 0x10fb0), (0x10fb2, 0x10fb3), (0x10fb8, 0x10fb8), (0x10fbb, 0x10fbc),
   (0x10fbe, 0x10fbf), (0x10fc1, 0x10fc1), (0x10fc4, 0x10fc4), (0x10fca, 0x10fcb),
   (0x1e900, 0x1e943), (0x1ee01, 0x1ee02), (0x1ee07, 0x1ee12), (0x1ee14, 0x1ee17),
   (0x1ee19, 0x1ee7e), (0x1ee81, 0x1ee82), (0x1ee84, 0x1ee84), (0x1ee87, 0x1ee92),
   (0x1ee94, 0x1ee97), (0x1ee99, 0x1eea2), (0x1eea7, 0x1eeb2), (0x1eeb4, 0x1eeb7),
   (0x1eeb9, 0x1eebb)]⟩

/-- The letters that are joined to the one before. -/
def joinsPrevious : Text.CharClass := ⟨
  [(0x620, 0x620), (0x622, 0x63f), (0x641, 0x64a), (0x66e, 0x673), (0x675, 0x6d3), (0x6d5, 0x6d5),
   (0x6ee, 0x6ef), (0x6fa, 0x6fc), (0x6ff, 0x6ff), (0x710, 0x77f), (0x7ca, 0x7ea), (0x840, 0x858),
   (0x860, 0x860), (0x862, 0x865), (0x867, 0x882), (0x886, 0x886), (0x889, 0x88e), (0x8a0, 0x8ac),
   (0x8ae, 0x8c8), (0x1807, 0x1807), (0x1820, 0x1878), (0x1887, 0x18aa), (0xa840, 0xa871),
   (0xfb50, 0xfbb1), (0xfbd3, 0xfcf1), (0xfcf5, 0xfd3d), (0xfd50, 0xfd8f), (0xfd92, 0xfdc7),
   (0xfdf0, 0xfdfc), (0xfe81, 0xfefc), (0x10ac0, 0x10ac5), (0x10ac7, 0x10ac7), (0x10ac9, 0x10aca),
   (0x10ace, 0x10ad6), (0x10ad8, 0x10ae1), (0x10ae4, 0x10aef), (0x10b80, 0x10b91),
   (0x10ba9, 0x10bae), (0x10d01, 0x10d23), (0x10f30, 0x10f44), (0x10f51, 0x10f54),
   (0x10f70, 0x10f81), (0x10fb0, 0x10fb0), (0x10fb2, 0x10fb6), (0x10fb8, 0x10fbf),
   (0x10fc1, 0x10fc4), (0x10fc9, 0x10fca), (0x1e900, 0x1e943), (0x1ee00, 0x1eebb)]⟩

/-- Whether the first character of a text that is no mark belongs to a class. -/
def meets (cls : Text.CharClass) (cs : List Char) : Bool :=
  (cs.find? fun c => !Text.isNonspacing c).any cls.contains

/-- Whether the joiners of a text stand where they can be seen. What comes before the text is given
from its end to its start. -/
def joinersSeen (before : List Char) : List Char → Bool
  | [] => true
  | c :: rest =>
    let silenced := (before.head?.map silencing.contains).getD false
    let fine :=
      if c = '\u200c' then silenced || (meets joinsNext before && meets joinsPrevious rest)
      else if c = '\u200d' then silenced
      else true
    fine && joinersSeen (c :: before) rest

end Stockroom.Url.Domain
