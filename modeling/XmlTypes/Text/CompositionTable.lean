import XmlTypes.Text.Images
/-!
# Canonical decompositions

Which characters stand for a sequence of others: a letter with an accent for the letter and the
accent. Hangul syllables decompose by arithmetic and are not listed. The decomposition of a
composite may be undone; that of the other characters is not.
-/

namespace XmlTypes.Text

/-- The full decompositions of composites. -/
def composites : List ImageBlock :=
  [⟨0xc0, "A\u0300 A\u0301 A\u0302 A\u0303 A\u0308 A\u030a"⟩,
   ⟨0xc7, "C\u0327 E\u0300 E\u0301 E\u0302 E\u0308 I\u0300 I\u0301 I\u0302 I\u0308"⟩,
   ⟨0xd1, "N\u0303 O\u0300 O\u0301 O\u0302 O\u0303 O\u0308"⟩,
   ⟨0xd9, "U\u0300 U\u0301 U\u0302 U\u0308 Y\u0301"⟩,
   ⟨0xe0, "a\u0300 a\u0301 a\u0302 a\u0303 a\u0308 a\u030a"⟩,
   ⟨0xe7, "c\u0327 e\u0300 e\u0301 e\u0302 e\u0308 i\u0300 i\u0301 i\u0302 i\u0308"⟩,
   ⟨0xf1, "n\u0303 o\u0300 o\u0301 o\u0302 o\u0303 o\u0308"⟩,
   ⟨0xf9, "u\u0300 u\u0301 u\u0302 u\u0308 y\u0301"⟩,
   ⟨0xff, "y\u0308 A\u0304 a\u0304 A\u0306 a\u0306 A\u0328 a\u0328 C\u0301 c\u0301 C\u0302"⟩,
   ⟨0x109, "c\u0302 C\u0307 c\u0307 C\u030c c\u030c D\u030c d\u030c"⟩,
   ⟨0x112, "E\u0304 e\u0304 E\u0306 e\u0306 E\u0307 e\u0307 E\u0328 e\u0328 E\u030c e\u030c"⟩,
   ⟨0x11c, "G\u0302 g\u0302 G\u0306 g\u0306 G\u0307 g\u0307 G\u0327 g\u0327 H\u0302 h\u0302"⟩,
   ⟨0x128, "I\u0303 i\u0303 I\u0304 i\u0304 I\u0306 i\u0306 I\u0328 i\u0328 I\u0307"⟩,
   ⟨0x134, "J\u0302 j\u0302 K\u0327 k\u0327"⟩,
   ⟨0x139, "L\u0301 l\u0301 L\u0327 l\u0327 L\u030c l\u030c"⟩,
   ⟨0x143, "N\u0301 n\u0301 N\u0327 n\u0327 N\u030c n\u030c"⟩,
   ⟨0x14c, "O\u0304 o\u0304 O\u0306 o\u0306 O\u030b o\u030b"⟩,
   ⟨0x154, "R\u0301 r\u0301 R\u0327 r\u0327 R\u030c r\u030c S\u0301 s\u0301 S\u0302 s\u0302"⟩,
   ⟨0x15e, "S\u0327 s\u0327 S\u030c s\u030c T\u0327 t\u0327 T\u030c t\u030c"⟩,
   ⟨0x168, "U\u0303 u\u0303 U\u0304 u\u0304 U\u0306 u\u0306 U\u030a u\u030a U\u030b u\u030b"⟩,
   ⟨0x172, "U\u0328 u\u0328 W\u0302 w\u0302 Y\u0302 y\u0302 Y\u0308 Z\u0301 z\u0301 Z\u0307"⟩,
   ⟨0x17c, "z\u0307 Z\u030c z\u030c"⟩,
   ⟨0x1a0, "O\u031b o\u031b"⟩,
   ⟨0x1af, "U\u031b u\u031b"⟩,
   ⟨0x1cd, "A\u030c a\u030c I\u030c i\u030c O\u030c o\u030c U\u030c u\u030c U\u0308\u0304"⟩,
   ⟨0x1d6, "u\u0308\u0304 U\u0308\u0301 u\u0308\u0301 U\u0308\u030c u\u0308\u030c U\u0308\u0300"⟩,
   ⟨0x1dc, "u\u0308\u0300"⟩,
   ⟨0x1de, "A\u0308\u0304 a\u0308\u0304 A\u0307\u0304 a\u0307\u0304 Æ\u0304 æ\u0304"⟩,
   ⟨0x1e6, "G\u030c g\u030c K\u030c k\u030c O\u0328 o\u0328 O\u0328\u0304 o\u0328\u0304 Ʒ\u030c"⟩,
   ⟨0x1ef, "ʒ\u030c j\u030c"⟩,
   ⟨0x1f4, "G\u0301 g\u0301"⟩,
   ⟨0x1f8, "N\u0300 n\u0300 A\u030a\u0301 a\u030a\u0301 Æ\u0301 æ\u0301 Ø\u0301 ø\u0301 A\u030f"⟩,
   ⟨0x201, "a\u030f A\u0311 a\u0311 E\u030f e\u030f E\u0311 e\u0311 I\u030f i\u030f I\u0311"⟩,
   ⟨0x20b, "i\u0311 O\u030f o\u030f O\u0311 o\u0311 R\u030f r\u030f R\u0311 r\u0311 U\u030f"⟩,
   ⟨0x215, "u\u030f U\u0311 u\u0311 S\u0326 s\u0326 T\u0326 t\u0326"⟩,
   ⟨0x21e, "H\u030c h\u030c"⟩,
   ⟨0x226, "A\u0307 a\u0307 E\u0327 e\u0327 O\u0308\u0304 o\u0308\u0304 O\u0303\u0304"⟩,
   ⟨0x22d, "o\u0303\u0304 O\u0307 o\u0307 O\u0307\u0304 o\u0307\u0304 Y\u0304 y\u0304"⟩,
   ⟨0x385, "\u00a8\u0301 Α\u0301"⟩,
   ⟨0x388, "Ε\u0301 Η\u0301 Ι\u0301"⟩,
   ⟨0x38c, "Ο\u0301"⟩,
   ⟨0x38e, "Υ\u0301 Ω\u0301 ι\u0308\u0301"⟩,
   ⟨0x3aa, "Ι\u0308 Υ\u0308 α\u0301 ε\u0301 η\u0301 ι\u0301 υ\u0308\u0301"⟩,
   ⟨0x3ca, "ι\u0308 υ\u0308 ο\u0301 υ\u0301 ω\u0301"⟩,
   ⟨0x3d3, "ϒ\u0301 ϒ\u0308"⟩,
   ⟨0x400, "Е\u0300 Е\u0308"⟩,
   ⟨0x403, "Г\u0301"⟩,
   ⟨0x407, "І\u0308"⟩,
   ⟨0x40c, "К\u0301 И\u0300 У\u0306"⟩,
   ⟨0x419, "И\u0306"⟩,
   ⟨0x439, "и\u0306"⟩,
   ⟨0x450, "е\u0300 е\u0308"⟩,
   ⟨0x453, "г\u0301"⟩,
   ⟨0x457, "і\u0308"⟩,
   ⟨0x45c, "к\u0301 и\u0300 у\u0306"⟩,
   ⟨0x476, "Ѵ\u030f ѵ\u030f"⟩,
   ⟨0x4c1, "Ж\u0306 ж\u0306"⟩,
   ⟨0x4d0, "А\u0306 а\u0306 А\u0308 а\u0308"⟩,
   ⟨0x4d6, "Е\u0306 е\u0306"⟩,
   ⟨0x4da, "Ә\u0308 ә\u0308 Ж\u0308 ж\u0308 З\u0308 з\u0308"⟩,
   ⟨0x4e2, "И\u0304 и\u0304 И\u0308 и\u0308 О\u0308 о\u0308"⟩,
   ⟨0x4ea, "Ө\u0308 ө\u0308 Э\u0308 э\u0308 У\u0304 у\u0304 У\u0308 у\u0308 У\u030b у\u030b"⟩,
   ⟨0x4f4, "Ч\u0308 ч\u0308"⟩,
   ⟨0x4f8, "Ы\u0308 ы\u0308"⟩,
   ⟨0x622, "\u0627\u0653 \u0627\u0654 \u0648\u0654 \u0627\u0655 \u064a\u0654"⟩,
   ⟨0x6c0, "\u06d5\u0654"⟩,
   ⟨0x6c2, "\u06c1\u0654"⟩,
   ⟨0x6d3, "\u06d2\u0654"⟩,
   ⟨0x929, "न\u093c"⟩,
   ⟨0x931, "र\u093c"⟩,
   ⟨0x934, "ळ\u093c"⟩,
   ⟨0x9cb, "\u09c7\u09be \u09c7\u09d7"⟩,
   ⟨0xb48, "\u0b47\u0b56"⟩,
   ⟨0xb4b, "\u0b47\u0b3e \u0b47\u0b57"⟩,
   ⟨0xb94, "ஒ\u0bd7"⟩,
   ⟨0xbca, "\u0bc6\u0bbe \u0bc7\u0bbe \u0bc6\u0bd7"⟩,
   ⟨0xc48, "\u0c46\u0c56"⟩,
   ⟨0xcc0, "\u0cbf\u0cd5"⟩,
   ⟨0xcc7, "\u0cc6\u0cd5 \u0cc6\u0cd6"⟩,
   ⟨0xcca, "\u0cc6\u0cc2 \u0cc6\u0cc2\u0cd5"⟩,
   ⟨0xd4a, "\u0d46\u0d3e \u0d47\u0d3e \u0d46\u0d57"⟩,
   ⟨0xdda, "\u0dd9\u0dca"⟩,
   ⟨0xddc, "\u0dd9\u0dcf \u0dd9\u0dcf\u0dca \u0dd9\u0ddf"⟩,
   ⟨0x1026, "ဥ\u102e"⟩,
   ⟨0x1b06, "ᬅ\u1b35"⟩,
   ⟨0x1b08, "ᬇ\u1b35"⟩,
   ⟨0x1b0a, "ᬉ\u1b35"⟩,
   ⟨0x1b0c, "ᬋ\u1b35"⟩,
   ⟨0x1b0e, "ᬍ\u1b35"⟩,
   ⟨0x1b12, "ᬑ\u1b35"⟩,
   ⟨0x1b3b, "\u1b3a\u1b35"⟩,
   ⟨0x1b3d, "\u1b3c\u1b35"⟩,
   ⟨0x1b40, "\u1b3e\u1b35 \u1b3f\u1b35"⟩,
   ⟨0x1b43, "\u1b42\u1b35"⟩,
   ⟨0x1e00, "A\u0325 a\u0325 B\u0307 b\u0307 B\u0323 b\u0323 B\u0331 b\u0331 C\u0327\u0301"⟩,
   ⟨0x1e09, "c\u0327\u0301 D\u0307 d\u0307 D\u0323 d\u0323 D\u0331 d\u0331 D\u0327 d\u0327"⟩,
   ⟨0x1e12, "D\u032d d\u032d E\u0304\u0300 e\u0304\u0300 E\u0304\u0301 e\u0304\u0301 E\u032d"⟩,
   ⟨0x1e19, "e\u032d E\u0330 e\u0330 E\u0327\u0306 e\u0327\u0306 F\u0307 f\u0307 G\u0304 g\u0304"⟩,
   ⟨0x1e22, "H\u0307 h\u0307 H\u0323 h\u0323 H\u0308 h\u0308 H\u0327 h\u0327 H\u032e h\u032e"⟩,
   ⟨0x1e2c, "I\u0330 i\u0330 I\u0308\u0301 i\u0308\u0301 K\u0301 k\u0301 K\u0323 k\u0323 K\u0331"⟩,
   ⟨0x1e35, "k\u0331 L\u0323 l\u0323 L\u0323\u0304 l\u0323\u0304 L\u0331 l\u0331 L\u032d l\u032d"⟩,
   ⟨0x1e3e, "M\u0301 m\u0301 M\u0307 m\u0307 M\u0323 m\u0323 N\u0307 n\u0307 N\u0323 n\u0323"⟩,
   ⟨0x1e48, "N\u0331 n\u0331 N\u032d n\u032d O\u0303\u0301 o\u0303\u0301 O\u0303\u0308"⟩,
   ⟨0x1e4f, "o\u0303\u0308 O\u0304\u0300 o\u0304\u0300 O\u0304\u0301 o\u0304\u0301 P\u0301"⟩,
   ⟨0x1e55, "p\u0301 P\u0307 p\u0307 R\u0307 r\u0307 R\u0323 r\u0323 R\u0323\u0304 r\u0323\u0304"⟩,
   ⟨0x1e5e, "R\u0331 r\u0331 S\u0307 s\u0307 S\u0323 s\u0323 S\u0301\u0307 s\u0301\u0307"⟩,
   ⟨0x1e66, "S\u030c\u0307 s\u030c\u0307 S\u0323\u0307 s\u0323\u0307 T\u0307 t\u0307 T\u0323"⟩,
   ⟨0x1e6d, "t\u0323 T\u0331 t\u0331 T\u032d t\u032d U\u0324 u\u0324 U\u0330 u\u0330 U\u032d"⟩,
   ⟨0x1e77, "u\u032d U\u0303\u0301 u\u0303\u0301 U\u0304\u0308 u\u0304\u0308 V\u0303 v\u0303"⟩,
   ⟨0x1e7e, "V\u0323 v\u0323 W\u0300 w\u0300 W\u0301 w\u0301 W\u0308 w\u0308 W\u0307 w\u0307"⟩,
   ⟨0x1e88, "W\u0323 w\u0323 X\u0307 x\u0307 X\u0308 x\u0308 Y\u0307 y\u0307 Z\u0302 z\u0302"⟩,
   ⟨0x1e92, "Z\u0323 z\u0323 Z\u0331 z\u0331 h\u0331 t\u0308 w\u030a y\u030a"⟩,
   ⟨0x1e9b, "ſ\u0307"⟩,
   ⟨0x1ea0, "A\u0323 a\u0323 A\u0309 a\u0309 A\u0302\u0301 a\u0302\u0301 A\u0302\u0300"⟩,
   ⟨0x1ea7, "a\u0302\u0300 A\u0302\u0309 a\u0302\u0309 A\u0302\u0303 a\u0302\u0303 A\u0323\u0302"⟩,
   ⟨0x1ead, "a\u0323\u0302 A\u0306\u0301 a\u0306\u0301 A\u0306\u0300 a\u0306\u0300 A\u0306\u0309"⟩,
   ⟨0x1eb3, "a\u0306\u0309 A\u0306\u0303 a\u0306\u0303 A\u0323\u0306 a\u0323\u0306 E\u0323"⟩,
   ⟨0x1eb9, "e\u0323 E\u0309 e\u0309 E\u0303 e\u0303 E\u0302\u0301 e\u0302\u0301 E\u0302\u0300"⟩,
   ⟨0x1ec1, "e\u0302\u0300 E\u0302\u0309 e\u0302\u0309 E\u0302\u0303 e\u0302\u0303 E\u0323\u0302"⟩,
   ⟨0x1ec7, "e\u0323\u0302 I\u0309 i\u0309 I\u0323 i\u0323 O\u0323 o\u0323 O\u0309 o\u0309"⟩,
   ⟨0x1ed0, "O\u0302\u0301 o\u0302\u0301 O\u0302\u0300 o\u0302\u0300 O\u0302\u0309 o\u0302\u0309"⟩,
   ⟨0x1ed6, "O\u0302\u0303 o\u0302\u0303 O\u0323\u0302 o\u0323\u0302 O\u031b\u0301 o\u031b\u0301"⟩,
   ⟨0x1edc, "O\u031b\u0300 o\u031b\u0300 O\u031b\u0309 o\u031b\u0309 O\u031b\u0303 o\u031b\u0303"⟩,
   ⟨0x1ee2, "O\u031b\u0323 o\u031b\u0323 U\u0323 u\u0323 U\u0309 u\u0309 U\u031b\u0301"⟩,
   ⟨0x1ee9, "u\u031b\u0301 U\u031b\u0300 u\u031b\u0300 U\u031b\u0309 u\u031b\u0309 U\u031b\u0303"⟩,
   ⟨0x1eef, "u\u031b\u0303 U\u031b\u0323 u\u031b\u0323 Y\u0300 y\u0300 Y\u0323 y\u0323 Y\u0309"⟩,
   ⟨0x1ef7, "y\u0309 Y\u0303 y\u0303"⟩,
   ⟨0x1f00, "α\u0313 α\u0314 α\u0313\u0300 α\u0314\u0300 α\u0313\u0301 α\u0314\u0301"⟩,
   ⟨0x1f06, "α\u0313\u0342 α\u0314\u0342 Α\u0313 Α\u0314 Α\u0313\u0300 Α\u0314\u0300"⟩,
   ⟨0x1f0c, "Α\u0313\u0301 Α\u0314\u0301 Α\u0313\u0342 Α\u0314\u0342 ε\u0313 ε\u0314"⟩,
   ⟨0x1f12, "ε\u0313\u0300 ε\u0314\u0300 ε\u0313\u0301 ε\u0314\u0301"⟩,
   ⟨0x1f18, "Ε\u0313 Ε\u0314 Ε\u0313\u0300 Ε\u0314\u0300 Ε\u0313\u0301 Ε\u0314\u0301"⟩,
   ⟨0x1f20, "η\u0313 η\u0314 η\u0313\u0300 η\u0314\u0300 η\u0313\u0301 η\u0314\u0301"⟩,
   ⟨0x1f26, "η\u0313\u0342 η\u0314\u0342 Η\u0313 Η\u0314 Η\u0313\u0300 Η\u0314\u0300"⟩,
   ⟨0x1f2c, "Η\u0313\u0301 Η\u0314\u0301 Η\u0313\u0342 Η\u0314\u0342 ι\u0313 ι\u0314"⟩,
   ⟨0x1f32, "ι\u0313\u0300 ι\u0314\u0300 ι\u0313\u0301 ι\u0314\u0301 ι\u0313\u0342 ι\u0314\u0342"⟩,
   ⟨0x1f38, "Ι\u0313 Ι\u0314 Ι\u0313\u0300 Ι\u0314\u0300 Ι\u0313\u0301 Ι\u0314\u0301"⟩,
   ⟨0x1f3e, "Ι\u0313\u0342 Ι\u0314\u0342 ο\u0313 ο\u0314 ο\u0313\u0300 ο\u0314\u0300"⟩,
   ⟨0x1f44, "ο\u0313\u0301 ο\u0314\u0301"⟩,
   ⟨0x1f48, "Ο\u0313 Ο\u0314 Ο\u0313\u0300 Ο\u0314\u0300 Ο\u0313\u0301 Ο\u0314\u0301"⟩,
   ⟨0x1f50, "υ\u0313 υ\u0314 υ\u0313\u0300 υ\u0314\u0300 υ\u0313\u0301 υ\u0314\u0301"⟩,
   ⟨0x1f56, "υ\u0313\u0342 υ\u0314\u0342"⟩,
   ⟨0x1f59, "Υ\u0314"⟩,
   ⟨0x1f5b, "Υ\u0314\u0300"⟩,
   ⟨0x1f5d, "Υ\u0314\u0301"⟩,
   ⟨0x1f5f, "Υ\u0314\u0342 ω\u0313 ω\u0314 ω\u0313\u0300 ω\u0314\u0300 ω\u0313\u0301"⟩,
   ⟨0x1f65, "ω\u0314\u0301 ω\u0313\u0342 ω\u0314\u0342 Ω\u0313 Ω\u0314 Ω\u0313\u0300"⟩,
   ⟨0x1f6b, "Ω\u0314\u0300 Ω\u0313\u0301 Ω\u0314\u0301 Ω\u0313\u0342 Ω\u0314\u0342 α\u0300"⟩,
   ⟨0x1f72, "ε\u0300"⟩,
   ⟨0x1f74, "η\u0300"⟩,
   ⟨0x1f76, "ι\u0300"⟩,
   ⟨0x1f78, "ο\u0300"⟩,
   ⟨0x1f7a, "υ\u0300"⟩,
   ⟨0x1f7c, "ω\u0300"⟩,
   ⟨0x1f80, "α\u0313\u0345 α\u0314\u0345 α\u0313\u0300\u0345 α\u0314\u0300\u0345"⟩,
   ⟨0x1f84, "α\u0313\u0301\u0345 α\u0314\u0301\u0345 α\u0313\u0342\u0345 α\u0314\u0342\u0345"⟩,
   ⟨0x1f88, "Α\u0313\u0345 Α\u0314\u0345 Α\u0313\u0300\u0345 Α\u0314\u0300\u0345"⟩,
   ⟨0x1f8c, "Α\u0313\u0301\u0345 Α\u0314\u0301\u0345 Α\u0313\u0342\u0345 Α\u0314\u0342\u0345"⟩,
   ⟨0x1f90, "η\u0313\u0345 η\u0314\u0345 η\u0313\u0300\u0345 η\u0314\u0300\u0345"⟩,
   ⟨0x1f94, "η\u0313\u0301\u0345 η\u0314\u0301\u0345 η\u0313\u0342\u0345 η\u0314\u0342\u0345"⟩,
   ⟨0x1f98, "Η\u0313\u0345 Η\u0314\u0345 Η\u0313\u0300\u0345 Η\u0314\u0300\u0345"⟩,
   ⟨0x1f9c, "Η\u0313\u0301\u0345 Η\u0314\u0301\u0345 Η\u0313\u0342\u0345 Η\u0314\u0342\u0345"⟩,
   ⟨0x1fa0, "ω\u0313\u0345 ω\u0314\u0345 ω\u0313\u0300\u0345 ω\u0314\u0300\u0345"⟩,
   ⟨0x1fa4, "ω\u0313\u0301\u0345 ω\u0314\u0301\u0345 ω\u0313\u0342\u0345 ω\u0314\u0342\u0345"⟩,
   ⟨0x1fa8, "Ω\u0313\u0345 Ω\u0314\u0345 Ω\u0313\u0300\u0345 Ω\u0314\u0300\u0345"⟩,
   ⟨0x1fac, "Ω\u0313\u0301\u0345 Ω\u0314\u0301\u0345 Ω\u0313\u0342\u0345 Ω\u0314\u0342\u0345"⟩,
   ⟨0x1fb0, "α\u0306 α\u0304 α\u0300\u0345 α\u0345 α\u0301\u0345"⟩,
   ⟨0x1fb6, "α\u0342 α\u0342\u0345 Α\u0306 Α\u0304 Α\u0300"⟩,
   ⟨0x1fbc, "Α\u0345"⟩,
   ⟨0x1fc1, "\u00a8\u0342 η\u0300\u0345 η\u0345 η\u0301\u0345"⟩,
   ⟨0x1fc6, "η\u0342 η\u0342\u0345 Ε\u0300"⟩,
   ⟨0x1fca, "Η\u0300"⟩,
   ⟨0x1fcc, "Η\u0345 \u1fbf\u0300 \u1fbf\u0301 \u1fbf\u0342 ι\u0306 ι\u0304 ι\u0308\u0300"⟩,
   ⟨0x1fd6, "ι\u0342 ι\u0308\u0342 Ι\u0306 Ι\u0304 Ι\u0300"⟩,
   ⟨0x1fdd, "\u1ffe\u0300 \u1ffe\u0301 \u1ffe\u0342 υ\u0306 υ\u0304 υ\u0308\u0300"⟩,
   ⟨0x1fe4, "ρ\u0313 ρ\u0314 υ\u0342 υ\u0308\u0342 Υ\u0306 Υ\u0304 Υ\u0300"⟩,
   ⟨0x1fec, "Ρ\u0314 \u00a8\u0300"⟩,
   ⟨0x1ff2, "ω\u0300\u0345 ω\u0345 ω\u0301\u0345"⟩,
   ⟨0x1ff6, "ω\u0342 ω\u0342\u0345 Ο\u0300"⟩,
   ⟨0x1ffa, "Ω\u0300"⟩,
   ⟨0x1ffc, "Ω\u0345"⟩,
   ⟨0x219a, "←\u0338 →\u0338"⟩,
   ⟨0x21ae, "↔\u0338"⟩,
   ⟨0x21cd, "⇐\u0338 ⇔\u0338 ⇒\u0338"⟩,
   ⟨0x2204, "∃\u0338"⟩,
   ⟨0x2209, "∈\u0338"⟩,
   ⟨0x220c, "∋\u0338"⟩,
   ⟨0x2224, "∣\u0338"⟩,
   ⟨0x2226, "∥\u0338"⟩,
   ⟨0x2241, "∼\u0338"⟩,
   ⟨0x2244, "≃\u0338"⟩,
   ⟨0x2247, "≅\u0338"⟩,
   ⟨0x2249, "≈\u0338"⟩,
   ⟨0x2260, "=\u0338"⟩,
   ⟨0x2262, "≡\u0338"⟩,
   ⟨0x226d, "≍\u0338 <\u0338 >\u0338 ≤\u0338 ≥\u0338"⟩,
   ⟨0x2274, "≲\u0338 ≳\u0338"⟩,
   ⟨0x2278, "≶\u0338 ≷\u0338"⟩,
   ⟨0x2280, "≺\u0338 ≻\u0338"⟩,
   ⟨0x2284, "⊂\u0338 ⊃\u0338"⟩,
   ⟨0x2288, "⊆\u0338 ⊇\u0338"⟩,
   ⟨0x22ac, "⊢\u0338 ⊨\u0338 ⊩\u0338 ⊫\u0338"⟩,
   ⟨0x22e0, "≼\u0338 ≽\u0338 ⊑\u0338 ⊒\u0338"⟩,
   ⟨0x22ea, "⊲\u0338 ⊳\u0338 ⊴\u0338 ⊵\u0338"⟩,
   ⟨0x304c, "か\u3099"⟩,
   ⟨0x304e, "き\u3099"⟩,
   ⟨0x3050, "く\u3099"⟩,
   ⟨0x3052, "け\u3099"⟩,
   ⟨0x3054, "こ\u3099"⟩,
   ⟨0x3056, "さ\u3099"⟩,
   ⟨0x3058, "し\u3099"⟩,
   ⟨0x305a, "す\u3099"⟩,
   ⟨0x305c, "せ\u3099"⟩,
   ⟨0x305e, "そ\u3099"⟩,
   ⟨0x3060, "た\u3099"⟩,
   ⟨0x3062, "ち\u3099"⟩,
   ⟨0x3065, "つ\u3099"⟩,
   ⟨0x3067, "て\u3099"⟩,
   ⟨0x3069, "と\u3099"⟩,
   ⟨0x3070, "は\u3099 は\u309a"⟩,
   ⟨0x3073, "ひ\u3099 ひ\u309a"⟩,
   ⟨0x3076, "ふ\u3099 ふ\u309a"⟩,
   ⟨0x3079, "へ\u3099 へ\u309a"⟩,
   ⟨0x307c, "ほ\u3099 ほ\u309a"⟩,
   ⟨0x3094, "う\u3099"⟩,
   ⟨0x309e, "\u309d\u3099"⟩,
   ⟨0x30ac, "カ\u3099"⟩,
   ⟨0x30ae, "キ\u3099"⟩,
   ⟨0x30b0, "ク\u3099"⟩,
   ⟨0x30b2, "ケ\u3099"⟩,
   ⟨0x30b4, "コ\u3099"⟩,
   ⟨0x30b6, "サ\u3099"⟩,
   ⟨0x30b8, "シ\u3099"⟩,
   ⟨0x30ba, "ス\u3099"⟩,
   ⟨0x30bc, "セ\u3099"⟩,
   ⟨0x30be, "ソ\u3099"⟩,
   ⟨0x30c0, "タ\u3099"⟩,
   ⟨0x30c2, "チ\u3099"⟩,
   ⟨0x30c5, "ツ\u3099"⟩,
   ⟨0x30c7, "テ\u3099"⟩,
   ⟨0x30c9, "ト\u3099"⟩,
   ⟨0x30d0, "ハ\u3099 ハ\u309a"⟩,
   ⟨0x30d3, "ヒ\u3099 ヒ\u309a"⟩,
   ⟨0x30d6, "フ\u3099 フ\u309a"⟩,
   ⟨0x30d9, "ヘ\u3099 ヘ\u309a"⟩,
   ⟨0x30dc, "ホ\u3099 ホ\u309a"⟩,
   ⟨0x30f4, "ウ\u3099"⟩,
   ⟨0x30f7, "ワ\u3099 ヰ\u3099 ヱ\u3099 ヲ\u3099"⟩,
   ⟨0x30fe, "\u30fd\u3099"⟩,
   ⟨0x105c9, "𐗒\u0307"⟩,
   ⟨0x105e4, "𐗚\u0307"⟩,
   ⟨0x1109a, "𑂚"⟩,
   ⟨0x1109c, "𑂜"⟩,
   ⟨0x110ab, "𑂫"⟩,
   ⟨0x1112e, "𑄮 𑄯"⟩,
   ⟨0x1134b, "𑍋 𑍌"⟩,
   ⟨0x11383, "𑎃"⟩,
   ⟨0x11385, "𑎅"⟩,
   ⟨0x1138e, "𑎎"⟩,
   ⟨0x11391, "𑎑"⟩,
   ⟨0x113c5, "𑏅"⟩,
   ⟨0x113c7, "𑏇 𑏈"⟩,
   ⟨0x114bb, "𑒻 𑒼"⟩,
   ⟨0x114be, "𑒾"⟩,
   ⟨0x115ba, "𑖺 𑖻"⟩,
   ⟨0x11938, "𑤸"⟩,
   ⟨0x16121, "𖄡 𖄢 𖄣 𖄤 𖄥 𖄦 𖄧 𖄨"⟩,
   ⟨0x16d68, "𖵨 𖵩 𖵪"⟩]

/-- The full decompositions that are never undone. -/
def replaced : List ImageBlock :=
  [⟨0x340, "\u0300 \u0301"⟩,
   ⟨0x343, "\u0313 \u0308\u0301"⟩,
   ⟨0x374, "\u02b9"⟩,
   ⟨0x37e, ";"⟩,
   ⟨0x387, "·"⟩,
   ⟨0x958, "क\u093c ख\u093c ग\u093c ज\u093c ड\u093c ढ\u093c फ\u093c य\u093c"⟩,
   ⟨0x9dc, "ড\u09bc ঢ\u09bc"⟩,
   ⟨0x9df, "য\u09bc"⟩,
   ⟨0xa33, "ਲ\u0a3c"⟩,
   ⟨0xa36, "ਸ\u0a3c"⟩,
   ⟨0xa59, "ਖ\u0a3c ਗ\u0a3c ਜ\u0a3c"⟩,
   ⟨0xa5e, "ਫ\u0a3c"⟩,
   ⟨0xb5c, "ଡ\u0b3c ଢ\u0b3c"⟩,
   ⟨0xf43, "ག\u0fb7"⟩,
   ⟨0xf4d, "ཌ\u0fb7"⟩,
   ⟨0xf52, "ད\u0fb7"⟩,
   ⟨0xf57, "བ\u0fb7"⟩,
   ⟨0xf5c, "ཛ\u0fb7"⟩,
   ⟨0xf69, "ཀ\u0fb5"⟩,
   ⟨0xf73, "\u0f71\u0f72"⟩,
   ⟨0xf75, "\u0f71\u0f74 \u0fb2\u0f80"⟩,
   ⟨0xf78, "\u0fb3\u0f80"⟩,
   ⟨0xf81, "\u0f71\u0f80"⟩,
   ⟨0xf93, "\u0f92\u0fb7"⟩,
   ⟨0xf9d, "\u0f9c\u0fb7"⟩,
   ⟨0xfa2, "\u0fa1\u0fb7"⟩,
   ⟨0xfa7, "\u0fa6\u0fb7"⟩,
   ⟨0xfac, "\u0fab\u0fb7"⟩,
   ⟨0xfb9, "\u0f90\u0fb5"⟩,
   ⟨0x1f71, "α\u0301"⟩,
   ⟨0x1f73, "ε\u0301"⟩,
   ⟨0x1f75, "η\u0301"⟩,
   ⟨0x1f77, "ι\u0301"⟩,
   ⟨0x1f79, "ο\u0301"⟩,
   ⟨0x1f7b, "υ\u0301"⟩,
   ⟨0x1f7d, "ω\u0301"⟩,
   ⟨0x1fbb, "Α\u0301"⟩,
   ⟨0x1fbe, "ι"⟩,
   ⟨0x1fc9, "Ε\u0301"⟩,
   ⟨0x1fcb, "Η\u0301"⟩,
   ⟨0x1fd3, "ι\u0308\u0301"⟩,
   ⟨0x1fdb, "Ι\u0301"⟩,
   ⟨0x1fe3, "υ\u0308\u0301"⟩,
   ⟨0x1feb, "Υ\u0301"⟩,
   ⟨0x1fee, "\u00a8\u0301 \x60"⟩,
   ⟨0x1ff9, "Ο\u0301"⟩,
   ⟨0x1ffb, "Ω\u0301"⟩,
   ⟨0x1ffd, "\u00b4"⟩,
   ⟨0x2000, "\u2002 \u2003"⟩,
   ⟨0x2126, "Ω"⟩,
   ⟨0x212a, "K A\u030a"⟩,
   ⟨0x2329, "〈 〉"⟩,
   ⟨0x2adc, "⫝\u0338"⟩,
   ⟨0xf900, "豈 更 車 賈 滑 串 句 龜 龜 契 金 喇 奈 懶 癩 羅 蘿 螺 裸 邏 樂 洛 烙 珞 落 酪 駱 亂 卵 欄 爛 蘭 鸞 嵐 濫 藍 襤 拉 臘 蠟 廊 朗"⟩,
   ⟨0xf92a, "浪 狼 郎 來 冷 勞 擄 櫓 爐 盧 老 蘆 虜 路 露 魯 鷺 碌 祿 綠 菉 錄 鹿 論 壟 弄 籠 聾 牢 磊 賂 雷 壘 屢 樓 淚 漏 累 縷 陋 勒 肋"⟩,
   ⟨0xf954, "凜 凌 稜 綾 菱 陵 讀 拏 樂 諾 丹 寧 怒 率 異 北 磻 便 復 不 泌 數 索 參 塞 省 葉 說 殺 辰 沈 拾 若 掠 略 亮 兩 凉 梁 糧 良 諒"⟩,
   ⟨0xf97e, "量 勵 呂 女 廬 旅 濾 礪 閭 驪 麗 黎 力 曆 歷 轢 年 憐 戀 撚 漣 煉 璉 秊 練 聯 輦 蓮 連 鍊 列 劣 咽 烈 裂 說 廉 念 捻 殮 簾 獵"⟩,
   ⟨0xf9a8, "令 囹 寧 嶺 怜 玲 瑩 羚 聆 鈴 零 靈 領 例 禮 醴 隸 惡 了 僚 寮 尿 料 樂 燎 療 蓼 遼 龍 暈 阮 劉 杻 柳 流 溜 琉 留 硫 紐 類 六"⟩,
   ⟨0xf9d2, "戮 陸 倫 崙 淪 輪 律 慄 栗 率 隆 利 吏 履 易 李 梨 泥 理 痢 罹 裏 裡 里 離 匿 溺 吝 燐 璘 藺 隣 鱗 麟 林 淋 臨 立 笠 粒 狀 炙"⟩,
   ⟨0xf9fc, "識 什 茶 刺 切 度 拓 糖 宅 洞 暴 輻 行 降 見 廓 兀 嗀"⟩,
   ⟨0xfa10, "塚"⟩,
   ⟨0xfa12, "晴"⟩,
   ⟨0xfa15, "凞 猪 益 礼 神 祥 福 靖 精 羽"⟩,
   ⟨0xfa20, "蘒"⟩,
   ⟨0xfa22, "諸"⟩,
   ⟨0xfa25, "逸 都"⟩,
   ⟨0xfa2a, "飯 飼 館 鶴 郞 隷 侮 僧 免 勉 勤 卑 喝 嘆 器 塀 墨 層 屮 悔 慨 憎 懲 敏 既 暑 梅 海 渚 漢 煮 爫 琢 碑 社 祉 祈 祐 祖 祝 禍 禎"⟩,
   ⟨0xfa54, "穀 突 節 練 縉 繁 署 者 臭 艹 艹 著 褐 視 謁 謹 賓 贈 辶 逸 難 響 頻 恵 𤋮 舘"⟩,
   ⟨0xfa70, "並 况 全 侀 充 冀 勇 勺 喝 啕 喙 嗢 塚 墳 奄 奔 婢 嬨 廒 廙 彩 徭 惘 慎 愈 憎 慠 懲 戴 揄 搜 摒 敖 晴 朗 望 杖 歹 殺 流 滛 滋"⟩,
   ⟨0xfa9a, "漢 瀞 煮 瞧 爵 犯 猪 瑱 甆 画 瘝 瘟 益 盛 直 睊 着 磌 窱 節 类 絛 練 缾 者 荒 華 蝹 襁 覆 視 調 諸 請 謁 諾 諭 謹 變 贈 輸 遲"⟩,
   ⟨0xfac4, "醙 鉶 陼 難 靖 韛 響 頋 頻 鬒 龜 𢡊 𢡄 𣏕 㮝 䀘 䀹 𥉉 𥳐 𧻓 齃 龎"⟩,
   ⟨0xfb1d, "\u05d9\u05b4"⟩,
   ⟨0xfb1f, "\u05f2\u05b7"⟩,
   ⟨0xfb2a, "\u05e9\u05c1 \u05e9\u05c2 \u05e9\u05bc\u05c1 \u05e9\u05bc\u05c2 \u05d0\u05b7"⟩,
   ⟨0xfb2f, "\u05d0\u05b8 \u05d0\u05bc \u05d1\u05bc \u05d2\u05bc \u05d3\u05bc \u05d4\u05bc"⟩,
   ⟨0xfb35, "\u05d5\u05bc \u05d6\u05bc"⟩,
   ⟨0xfb38, "\u05d8\u05bc \u05d9\u05bc \u05da\u05bc \u05db\u05bc \u05dc\u05bc"⟩,
   ⟨0xfb3e, "\u05de\u05bc"⟩,
   ⟨0xfb40, "\u05e0\u05bc \u05e1\u05bc"⟩,
   ⟨0xfb43, "\u05e3\u05bc \u05e4\u05bc"⟩,
   ⟨0xfb46, "\u05e6\u05bc \u05e7\u05bc \u05e8\u05bc \u05e9\u05bc \u05ea\u05bc \u05d5\u05b9"⟩,
   ⟨0xfb4c, "\u05d1\u05bf \u05db\u05bf \u05e4\u05bf"⟩,
   ⟨0x1d15e, "𝅗𝅥 𝅘𝅥 𝅘𝅥𝅮 𝅘𝅥𝅯 𝅘𝅥𝅰 𝅘𝅥𝅱 𝅘𝅥𝅲"⟩,
   ⟨0x1d1bb, "𝆹𝅥 𝆺𝅥 𝆹𝅥𝅮 𝆺𝅥𝅮 𝆹𝅥𝅯 𝆺𝅥𝅯"⟩,
   ⟨0x2f800, "丽 丸 乁 𠄢 你 侮 侻 倂 偺 備 僧 像 㒞 𠘺 免 兔 兤 具 𠔜 㒹 內 再 𠕋 冗 冤 仌 冬 况 𩇟 凵 刃 㓟 刻 剆 割 剷 㔕 勇 勉 勤 勺"⟩,
   ⟨0x2f829, "包 匆 北 卉 卑 博 即 卽 卿 卿 卿 𠨬 灰 及 叟 𠭣 叫 叱 吆 咞 吸 呈 周 咢 哶 唐 啓 啣 善 善 喙 喫 喳 嗂 圖 嘆 圗 噑 噴 切 壮"⟩,
   ⟨0x2f852, "城 埴 堍 型 堲 報 墬 𡓤 売 壷 夆 多 夢 奢 𡚨 𡛪 姬 娛 娧 姘 婦 㛮 㛼 嬈 嬾 嬾 𡧈 寃 寘 寧 寳 𡬘 寿 将 当 尢 㞁 屠 屮 峀 岍"⟩,
   ⟨0x2f87b, "𡷤 嵃 𡷦 嵮 嵫 嵼 巡 巢 㠯 巽 帨 帽 幩 㡢 𢆃 㡼 庰 庳 庶 廊 𪎒 廾 𢌱 𢌱 舁 弢 弢 㣇 𣊸 𦇚 形 彫 㣣 徚 忍 志 忹 悁 㤺 㤜 悔"⟩,
   ⟨0x2f8a4, "𢛔 惇 慈 慌 慎 慌 慺 憎 憲 憤 憯 懞 懲 懶 成 戛 扝 抱 拔 捐 𢬌 挽 拼 捨 掃 揤 𢯱 搢 揅 掩 㨮 摩 摾 撝 摷 㩬 敏 敬 𣀊 旣 書"⟩,
   ⟨0x2f8cd, "晉 㬙 暑 㬈 㫤 冒 冕 最 暜 肭 䏙 朗 望 朡 杞 杓 𣏃 㭉 柺 枅 桒 梅 𣑭 梎 栟 椔 㮝 楂 榣 槪 檨 𣚣 櫛 㰘 次 𣢧 歔 㱎 歲 殟 殺"⟩,
   ⟨0x2f8f6, "殻 𣪍 𡴋 𣫺 汎 𣲼 沿 泍 汧 洖 派 海 流 浩 浸 涅 𣴞 洴 港 湮 㴳 滋 滇 𣻑 淹 潮 𣽞 𣾎 濆 瀹 瀞 瀛 㶖 灊 災 灷 炭 𠔥 煅 𤉣 熜"⟩,
   ⟨0x2f91f, "𤎫 爨 爵 牐 𤘈 犀 犕 𤜵 𤠔 獺 王 㺬 玥 㺸 㺸 瑇 瑜 瑱 璅 瓊 㼛 甤 𤰶 甾 𤲒 異 𢆟 瘐 𤾡 𤾸 𥁄 㿼 䀈 直 𥃳 𥃲 𥄙 𥄳 眞 真 真"⟩,
   ⟨0x2f948, "睊 䀹 瞋 䁆 䂖 𥐝 硎 碌 磌 䃣 𥘦 祖 𥚚 𥛅 福 秫 䄯 穀 穊 穏 𥥼 𥪧 𥪧 竮 䈂 𥮫 篆 築 䈧 𥲀 糒 䊠 糨 糣 紀 𥾆 絣 䌁 緇 縂 繅"⟩,
   ⟨0x2f971, "䌴 𦈨 𦉇 䍙 𦋙 罺 𦌾 羕 翺 者 𦓚 𦔣 聠 𦖨 聰 𣍟 䏕 育 脃 䐋 脾 媵 𦞧 𦞵 𣎓 𣎜 舁 舄 辞 䑫 芑 芋 芝 劳 花 芳 芽 苦 𦬼 若 茝"⟩,
   ⟨0x2f99a, "荣 莭 茣 莽 菧 著 荓 菊 菌 菜 𦰶 𦵫 𦳕 䔫 蓱 蓳 蔖 𧏊 蕤 𦼬 䕝 䕡 𦾱 𧃒 䕫 虐 虜 虧 虩 蚩 蚈 蜎 蛢 蝹 蜨 蝫 螆 䗗 蟡 蠁 䗹"⟩,
   ⟨0x2f9c3, "衠 衣 𧙧 裗 裞 䘵 裺 㒻 𧢮 𧥦 䚾 䛇 誠 諭 變 豕 𧲨 貫 賁 贛 起 𧼯 𠠄 跋 趼 跰 𠣞 軔 輸 𨗒 𨗭 邔 郱 鄑 𨜮 鄛 鈸 鋗 鋘 鉼 鏹"⟩,
   ⟨0x2f9ec, "鐕 𨯺 開 䦕 閷 𨵷 䧦 雃 嶲 霣 𩅅 𩈚 䩮 䩶 韠 𩐊 䪲 𩒖 頋 頋 頩 𩖶 飢 䬳 餩 馧 駂 駾 䯎 𩬰 鬒 鱀 鳽 䳎 䳭 鵧 𪃎 䳸 𪄅 𪈎 𪊑"⟩,
   ⟨0x2fa15, "麻 䵖 黹 黾 鼅 鼏 鼖 鼻 𪘀"⟩]

end XmlTypes.Text
