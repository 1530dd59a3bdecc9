import EngineGateway.Text.CharacterSet

/-!
# Scripts

The scripts whose neighbourhood some characters need, as Unicode assigns them.
-/

namespace EngineGateway.Text

/-- Where the script Greek and others change places. -/
def greekBoundaries : List Nat :=
  [0x370, 0x374, 0x375, 0x378, 0x37A, 0x37E, 0x37F, 0x380, 0x384, 0x385, 0x386, 0x387, 0x388, 0x38B,
    0x38C, 0x38D, 0x38E, 0x3A2, 0x3A3, 0x3E2, 0x3F0, 0x400, 0x1D26, 0x1D2B, 0x1D5D, 0x1D62, 0x1D66,
    0x1D6B, 0x1DBF, 0x1DC0, 0x1F00, 0x1F16, 0x1F18, 0x1F1E, 0x1F20, 0x1F46, 0x1F48, 0x1F4E, 0x1F50,
    0x1F58, 0x1F59, 0x1F5A, 0x1F5B, 0x1F5C, 0x1F5D, 0x1F5E, 0x1F5F, 0x1F7E, 0x1F80, 0x1FB5, 0x1FB6,
    0x1FC5, 0x1FC6, 0x1FD4, 0x1FD6, 0x1FDC, 0x1FDD, 0x1FF0, 0x1FF2, 0x1FF5, 0x1FF6, 0x1FFF, 0x2126,
    0x2127, 0xAB65, 0xAB66, 0x10140, 0x1018F, 0x101A0, 0x101A1, 0x1D200, 0x1D246]

/-- A character of the script Greek. -/
def isGreek (c : Char) : Bool := within greekBoundaries c

/-- Where the script Hebrew and others change places. -/
def hebrewBoundaries : List Nat :=
  [0x591, 0x5CA, 0x5D0, 0x5EB, 0x5EF, 0x5F5, 0xFB1D, 0xFB37, 0xFB38, 0xFB3D, 0xFB3E, 0xFB3F, 0xFB40,
    0xFB42, 0xFB43, 0xFB45, 0xFB46, 0xFB50]

/-- A character of the script Hebrew. -/
def isHebrew (c : Char) : Bool := within hebrewBoundaries c

/-- Where the script Hiragana and others change places. -/
def hiraganaBoundaries : List Nat :=
  [0x3041, 0x3097, 0x309D, 0x30A0, 0x1B001, 0x1B120, 0x1B132, 0x1B133, 0x1B150, 0x1B153, 0x1F200,
    0x1F201]

/-- A character of the script Hiragana. -/
def isHiragana (c : Char) : Bool := within hiraganaBoundaries c

/-- Where the script Katakana and others change places. -/
def katakanaBoundaries : List Nat :=
  [0x30A1, 0x30FB, 0x30FD, 0x3100, 0x31F0, 0x3200, 0x32D0, 0x32FF, 0x3300, 0x3358, 0xFF66, 0xFF70,
    0xFF71, 0xFF9E, 0x1AFF0, 0x1AFF4, 0x1AFF5, 0x1AFFC, 0x1AFFD, 0x1AFFF, 0x1B000, 0x1B001, 0x1B120,
    0x1B129, 0x1B155, 0x1B156, 0x1B164, 0x1B169]

/-- A character of the script Katakana. -/
def isKatakana (c : Char) : Bool := within katakanaBoundaries c

/-- Where the script Han and others change places. -/
def hanBoundaries : List Nat :=
  [0x2E80, 0x2E9A, 0x2E9B, 0x2EF4, 0x2F00, 0x2FD6, 0x3005, 0x3006, 0x3007, 0x3008, 0x3021, 0x302A,
    0x3038, 0x303C, 0x3400, 0x4DC0, 0x4E00, 0xA000, 0xF900, 0xFA6E, 0xFA70, 0xFADA, 0x16FE2,
    0x16FE4, 0x16FF0, 0x16FF7, 0x20000, 0x2A6E0, 0x2A700, 0x2B81F, 0x2B820, 0x2CEAE, 0x2CEB0,
    0x2EBE1, 0x2EBF0, 0x2EE5E, 0x2F800, 0x2FA1E, 0x30000, 0x3134B, 0x31350, 0x3347A]

/-- A character of the script Han. -/
def isHan (c : Char) : Bool := within hanBoundaries c

end EngineGateway.Text
