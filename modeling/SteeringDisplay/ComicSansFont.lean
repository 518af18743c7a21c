import SteeringDisplay.FirmwareInterface

set_option autoImplicit false

/-! # comicsans_font.h: the glyphs that have a bitmap, by character code -/
namespace SteeringDisplay.ComicSansFont
open FirmwareInterface

def glyphTable : List (UInt8 × Glyph8x16) :=
  [(32, ⟨#v[0x00, 0x00, 0x00, 0x00, 0x00, 0x00, 0x00, 0x00,
     0x00, 0x00, 0x00, 0x00, 0x00, 0x00, 0x00, 0x00]⟩),
   (37, ⟨#v[0x63, 0x96, 0x66, 0x0C, 0x0C, 0x18, 0x18, 0x30,
     0x30, 0x66, 0x69, 0xC6, 0x00, 0x00, 0x00, 0x00]⟩),
   (46, ⟨#v[0x00, 0x00, 0x00, 0x00, 0x00, 0x00, 0x00, 0x00,
     0x00, 0x00, 0x00, 0x18, 0x00, 0x00, 0x00, 0x00]⟩),
   (48, ⟨#v[0x3C, 0x66, 0xC3, 0x83, 0x83, 0x83, 0x83, 0x83,
     0x83, 0xC6, 0x7E, 0x3C, 0x00, 0x00, 0x00, 0x00]⟩),
   (49, ⟨#v[0x18, 0x38, 0x78, 0x18, 0x18, 0x18, 0x18, 0x18,
     0x18, 0x18, 0x3C, 0x3C, 0x00, 0x00, 0x00, 0x00]⟩),
   (50, ⟨#v[0x3C, 0x66, 0xC2, 0x02, 0x06, 0x1C, 0x38, 0x60,
     0x40, 0xC0, 0xFE, 0x72, 0x00, 0x00, 0x00, 0x00]⟩),
   (51, ⟨#v[0x7C, 0x6E, 0x02, 0x06, 0x1E, 0x3C, 0x0E, 0x06,
     0x02, 0xC6, 0xFE, 0x38, 0x00, 0x00, 0x00, 0x00]⟩),
   (52, ⟨#v[0x0C, 0x1C, 0x1C, 0x34, 0x64, 0x44, 0xC6, 0xFF,
     0x06, 0x04, 0x04, 0x04, 0x00, 0x00, 0x00, 0x00]⟩),
   (53, ⟨#v[0xFE, 0xC0, 0xC0, 0xFC, 0xFE, 0xC3, 0x83, 0x03,
     0x03, 0x82, 0xCE, 0x7C, 0x00, 0x00, 0x00, 0x00]⟩),
   (54, ⟨#v[0x18, 0x30, 0x60, 0x40, 0xD8, 0xFE, 0xC6, 0x82,
     0x82, 0xC2, 0x66, 0x7C, 0x00, 0x00, 0x00, 0x00]⟩),
   (55, ⟨#v[0xFF, 0xFF, 0x06, 0x0C, 0x0C, 0x18, 0x18, 0x10,
     0x30, 0x20, 0x60, 0x60, 0x00, 0x00, 0x00, 0x00]⟩),
   (56, ⟨#v[0x3C, 0x66, 0xC6, 0xC6, 0x6E, 0x7C, 0x66, 0xC2,
     0x83, 0xC3, 0xE6, 0x7C, 0x00, 0x00, 0x00, 0x00]⟩),
   (57, ⟨#v[0x3C, 0x46, 0xC3, 0x83, 0x83, 0xC3, 0x7F, 0x16,
     0x06, 0x0C, 0x38, 0x70, 0x00, 0x00, 0x00, 0x00]⟩),
   (65, ⟨#v[0x04, 0x0C, 0x1C, 0x1E, 0x36, 0x26, 0x7E, 0xFE,
     0xC3, 0x83, 0x81, 0x01, 0x00, 0x00, 0x00, 0x00]⟩),
   (66, ⟨#v[0x7C, 0x46, 0x42, 0x42, 0x46, 0x6E, 0x7E, 0xC7,
     0xC1, 0xC3, 0xFE, 0x78, 0x00, 0x00, 0x00, 0x00]⟩),
   (67, ⟨#v[0x0F, 0x1F, 0x31, 0x60, 0x40, 0xC0, 0x80, 0x80,
     0x80, 0xC3, 0x7E, 0x38, 0x00, 0x00, 0x00, 0x00]⟩),
   (68, ⟨#v[0xC0, 0xF8, 0x9C, 0x86, 0x83, 0x81, 0x81, 0x81,
     0x81, 0x83, 0x86, 0xFC, 0x00, 0x00, 0x00, 0x00]⟩),
   (69, ⟨#v[0xFF, 0xC0, 0xC0, 0xC0, 0xC0, 0xFF, 0xE0, 0xC0,
     0xC0, 0xC0, 0xC0, 0x7F, 0x00, 0x00, 0x00, 0x00]⟩),
   (70, ⟨#v[0xFF, 0xC0, 0xC0, 0xC0, 0xDE, 0xFE, 0xC0, 0xC0,
     0xC0, 0xC0, 0xC0, 0xC0, 0x00, 0x00, 0x00, 0x00]⟩),
   (71, ⟨#v[0x3C, 0x7E, 0xC3, 0xC0, 0xCF, 0xC3, 0xC3, 0xC3,
     0xC3, 0xC3, 0x7E, 0x3C, 0x00, 0x00, 0x00, 0x00]⟩),
   (72, ⟨#v[0x80, 0x80, 0x80, 0x80, 0x81, 0x8F, 0xFF, 0x81,
     0x81, 0x81, 0x81, 0x80, 0x00, 0x00, 0x00, 0x00]⟩),
   (73, ⟨#v[0xFC, 0xFE, 0x30, 0x30, 0x30, 0x30, 0x30, 0x30,
     0x30, 0x30, 0xFE, 0xFC, 0x00, 0x00, 0x00, 0x00]⟩),
   (74, ⟨#v[0x7F, 0x7E, 0x08, 0x08, 0x08, 0x08, 0x08, 0x08,
     0x08, 0x18, 0x98, 0xF0, 0x20, 0x00, 0x00, 0x00]⟩),
   (75, ⟨#v[0x82, 0x86, 0x8C, 0x98, 0xB0, 0xE0, 0xE0, 0xE0,
     0xB0, 0x9C, 0x8E, 0x82, 0x00, 0x00, 0x00, 0x00]⟩),
   (76, ⟨#v[0xC0, 0xC0, 0xC0, 0xC0, 0xC0, 0xC0, 0xC0, 0xC0,
     0x80, 0x80, 0x8E, 0xFC, 0x00, 0x00, 0x00, 0x00]⟩),
   (77, ⟨#v[0x66, 0x5A, 0x5A, 0x52, 0xC3, 0xC3, 0xC3, 0xC3,
     0x81, 0x81, 0x81, 0x81, 0x00, 0x00, 0x00, 0x00]⟩),
   (78, ⟨#v[0x82, 0xC7, 0xCF, 0xCF, 0xCF, 0xDB, 0xDB, 0xF3,
     0xF3, 0xE3, 0xC3, 0x82, 0x00, 0x00, 0x00, 0x00]⟩),
   (79, ⟨#v[0x3E, 0xFF, 0x81, 0x81, 0x01, 0x01, 0x01, 0x01,
     0x03, 0x07, 0xFE, 0x78, 0x00, 0x00, 0x00, 0x00]⟩),
   (80, ⟨#v[0xF8, 0xCC, 0x86, 0x86, 0x84, 0xDC, 0xF8, 0x80,
     0x80, 0x80, 0x80, 0x80, 0x00, 0x00, 0x00, 0x00]⟩),
   (81, ⟨#v[0x3E, 0xFF, 0x81, 0x00, 0x00, 0x00, 0x00, 0x00,
     0x18, 0x1D, 0xCF, 0xFF, 0x11, 0x00, 0x00, 0x00]⟩),
   (82, ⟨#v[0xF8, 0xFC, 0xC6, 0xC3, 0xC3, 0xC3, 0xFE, 0xF8,
     0xDC, 0xC6, 0xC3, 0x81, 0x00, 0x00, 0x00, 0x00]⟩),
   (83, ⟨#v[0x1C, 0x7E, 0xC0, 0xC0, 0xC0, 0x7E, 0x07, 0x03,
     0x03, 0x83, 0xCE, 0xFC, 0x00, 0x00, 0x00, 0x00]⟩),
   (84, ⟨#v[0xFF, 0xFF, 0x10, 0x18, 0x18, 0x18, 0x18, 0x18,
     0x18, 0x18, 0x18, 0x00, 0x00, 0x00, 0x00, 0x00]⟩),
   (85, ⟨#v[0x81, 0x81, 0x81, 0x81, 0x81, 0x81, 0x81, 0x81,
     0x83, 0xC3, 0xEE, 0x3C, 0x00, 0x00, 0x00, 0x00]⟩),
   (86, ⟨#v[0x81, 0x83, 0x82, 0x86, 0xC6, 0xC4, 0x4C, 0x48,
     0x78, 0x78, 0x30, 0x30, 0x00, 0x00, 0x00, 0x00]⟩),
   (87, ⟨#v[0x00, 0x00, 0x81, 0x81, 0x81, 0x81, 0x81, 0x81,
     0x83, 0xC3, 0x52, 0x5A, 0x5A, 0x66, 0x00, 0x00]⟩),
   (88, ⟨#v[0x81, 0xC3, 0xC3, 0x66, 0x3C, 0x18, 0x38, 0x3C,
     0x66, 0xC6, 0x83, 0x01, 0x00, 0x00, 0x00, 0x00]⟩),
   (89, ⟨#v[0x81, 0x83, 0xC3, 0x66, 0x66, 0x34, 0x3C, 0x18,
     0x18, 0x18, 0x30, 0x20, 0x00, 0x00, 0x00, 0x00]⟩),
   (90, ⟨#v[0xFF, 0xFF, 0x06, 0x0C, 0x18, 0x30, 0x60, 0x60,
     0xC0, 0x80, 0x9F, 0xFF, 0x00, 0x00, 0x00, 0x00]⟩),
   (97, ⟨#v[0x00, 0x00, 0x00, 0x00, 0x3E, 0x62, 0x46, 0xC6,
     0xC2, 0x42, 0x66, 0x3B, 0x00, 0x00, 0x00, 0x00]⟩),
   (98, ⟨#v[0xC0, 0xC0, 0xC0, 0xC0, 0xFC, 0xC6, 0xC2, 0xC3,
     0xC2, 0xC2, 0xFE, 0xF8, 0x00, 0x00, 0x00, 0x00]⟩),
   (99, ⟨#v[0x00, 0x00, 0x00, 0x08, 0x3E, 0x22, 0x60, 0x40,
     0x40, 0x40, 0x76, 0x3E, 0x00, 0x00, 0x00, 0x00]⟩),
   (100, ⟨#v[0x02, 0x02, 0x02, 0x02, 0x7E, 0xC6, 0x82, 0x82,
     0x82, 0xC6, 0x7E, 0x3A, 0x00, 0x00, 0x00, 0x00]⟩),
   (101, ⟨#v[0x00, 0x00, 0x00, 0x00, 0x7C, 0xC4, 0x8C, 0xB8,
     0xE0, 0x82, 0xEE, 0x7C, 0x00, 0x00, 0x00, 0x00]⟩),
   (102, ⟨#v[0x0E, 0x18, 0x10, 0x10, 0x7E, 0x70, 0x10, 0x10,
     0x10, 0x10, 0x10, 0x30, 0x10, 0x00, 0x00, 0x00]⟩),
   (103, ⟨#v[0x00, 0x00, 0x00, 0x00, 0x3E, 0x73, 0x43, 0x42,
     0xC2, 0x46, 0x7E, 0x3A, 0x02, 0x06, 0x4C, 0x78]⟩),
   (104, ⟨#v[0xC0, 0xC0, 0xC0, 0xC0, 0xDC, 0xF6, 0xE6, 0xC6,
     0xC6, 0xC6, 0xC2, 0x82, 0x00, 0x00, 0x00, 0x00]⟩),
   (105, ⟨#v[0x08, 0x08, 0x00, 0x00, 0x08, 0x18, 0x18, 0x18,
     0x18, 0x18, 0x18, 0x00, 0x00, 0x00, 0x00, 0x00]⟩),
   (106, ⟨#v[0x08, 0x08, 0x00, 0x00, 0x0C, 0x0C, 0x0C, 0x0C,
     0x0C, 0x0C, 0x0C, 0x0C, 0x0C, 0x6C, 0x6C, 0x38]⟩),
   (107, ⟨#v[0xC0, 0xC0, 0xC0, 0xC2, 0xC6, 0xCC, 0xF8, 0xF8,
     0xCC, 0xCC, 0xC6, 0xC2, 0x00, 0x00, 0x00, 0x00]⟩),
   (108, ⟨#v[0x10, 0x18, 0x18, 0x18, 0x18, 0x38, 0x18, 0x18,
     0x18, 0x18, 0x18, 0x08, 0x00, 0x00, 0x00, 0x00]⟩),
   (109, ⟨#v[0x00, 0x00, 0x00, 0x00, 0xFE, 0xBB, 0x33, 0x31,
     0x31, 0x31, 0x11, 0x11, 0x00, 0x00, 0x00, 0x00]⟩),
   (110, ⟨#v[0x00, 0x00, 0x00, 0x00, 0xDC, 0xFE, 0xC6, 0xC6,
     0xC6, 0xC6, 0xC6, 0xC6, 0x00, 0x00, 0x00, 0x00]⟩),
   (111, ⟨#v[0x00, 0x00, 0x00, 0x00, 0x3C, 0x66, 0x62, 0x42,
     0x42, 0x42, 0x7E, 0x3C, 0x00, 0x00, 0x00, 0x00]⟩),
   (112, ⟨#v[0x00, 0x00, 0x00, 0x80, 0xFC, 0xEC, 0xC6, 0xC6,
     0xC6, 0xC4, 0xFC, 0xF8, 0xC0, 0xC0, 0xC0, 0xC0]⟩),
   (113, ⟨#v[0x00, 0x00, 0x00, 0x00, 0x3E, 0x62, 0x42, 0x42,
     0xC2, 0x46, 0x7E, 0x3E, 0x06, 0x06, 0x04, 0x04]⟩),
   (114, ⟨#v[0x00, 0x00, 0x00, 0x00, 0x7E, 0x72, 0x62, 0x60,
     0x60, 0x60, 0x60, 0x40, 0x00, 0x00, 0x00, 0x00]⟩),
   (115, ⟨#v[0x00, 0x00, 0x00, 0x0E, 0x3E, 0x62, 0x60, 0x3C,
     0x0C, 0x06, 0xFE, 0x7C, 0x00, 0x00, 0x00, 0x00]⟩),
   (116, ⟨#v[0x10, 0x18, 0x18, 0x18, 0xFF, 0x38, 0x18, 0x18,
     0x18, 0x18, 0x18, 0x08, 0x00, 0x00, 0x00, 0x00]⟩),
   (117, ⟨#v[0x00, 0x00, 0x00, 0x00, 0x62, 0x42, 0x42, 0x42,
     0x42, 0x62, 0x7E, 0x3E, 0x00, 0x00, 0x00, 0x00]⟩),
   (118, ⟨#v[0x00, 0x00, 0x00, 0x00, 0x42, 0x46, 0x66, 0x24,
     0x3C, 0x38, 0x18, 0x10, 0x00, 0x00, 0x00, 0x00]⟩),
   (119, ⟨#v[0x00, 0x00, 0x00, 0x00, 0x11, 0x31, 0x3B, 0x3B,
     0xEA, 0xCE, 0xCE, 0x8C, 0x00, 0x00, 0x00, 0x00]⟩),
   (120, ⟨#v[0x00, 0x00, 0x00, 0x41, 0x43, 0x66, 0x3C, 0x38,
     0x38, 0xEC, 0xC6, 0x02, 0x00, 0x00, 0x00, 0x00]⟩),
   (121, ⟨#v[0x00, 0x00, 0x00, 0x00, 0xC3, 0xC2, 0x66, 0x64,
     0x3C, 0x1C, 0x18, 0x18, 0x10, 0x30, 0x20, 0x20]⟩),
   (122, ⟨#v[0x00, 0x00, 0x00, 0x00, 0xFE, 0x0C, 0x0C, 0x18,
     0x30, 0x20, 0x7C, 0xFE, 0x00, 0x00, 0x00, 0x00]⟩)]

/-- The pointer table `glyphs`: `none` is a null pointer. -/
def glyphs (ch : UInt8) : Option Glyph8x16 := glyphTable.lookup ch

def glyphAdvanceComicSans (ch : UInt8) : UInt16 :=
  if ch = 32 then 12
  else if ch = 108 ∨ ch = 105 then 13
  else if ch = 111 ∨ ch = 114 ∨ ch = 103 then 15
  else if ch = 97 ∨ ch = 109 ∨ ch = 78 then 17
  else if ch = 77 ∨ ch = 71 then 18
  else 16

end SteeringDisplay.ComicSansFont
