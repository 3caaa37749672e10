import CurlRequest.Terminal.Width

/-!
# Glyphs

A terminal shows some sequences of code points in one place.  What takes no column belongs to the
glyph before it; a joiner also brings in the code point behind it; and a selector asks for the
picture of a symbol, which is wider than its letter form.

**Contents.**
* `Glyph`, `glyphs`: what is shown in one place, and the glyphs of a text.
* `width`: the columns that a text takes.
-/

namespace CurlRequest.Terminal

/-- What is shown in one place, and the columns it takes. -/
structure Glyph where
  content : Text
  columns : Nat
  deriving DecidableEq, Repr

/-- Ranges of narrow symbols of which there is a wide picture. -/
def pictureBases : List (Nat × Nat) := [
  (0x23, 0x23), (0x2A, 0x2A), (0x30, 0x39), (0xA9, 0xA9), (0xAE, 0xAE), (0x203C, 0x203C),
  (0x2049, 0x2049), (0x2122, 0x2122), (0x2139, 0x2139), (0x2194, 0x2199), (0x21A9, 0x21AA),
  (0x2328, 0x2328), (0x23CF, 0x23CF), (0x23ED, 0x23EF), (0x23F1, 0x23F2), (0x23F8, 0x23FA),
  (0x24C2, 0x24C2), (0x25AA, 0x25AB), (0x25B6, 0x25B6), (0x25C0, 0x25C0), (0x25FB, 0x25FC),
  (0x2600, 0x2604), (0x260E, 0x260E), (0x2611, 0x2611), (0x2618, 0x2618), (0x261D, 0x261D),
  (0x2620, 0x2620), (0x2622, 0x2623), (0x2626, 0x2626), (0x262A, 0x262A), (0x262E, 0x262F),
  (0x2638, 0x263A), (0x2640, 0x2640), (0x2642, 0x2642), (0x265F, 0x2660), (0x2663, 0x2663),
  (0x2665, 0x2666), (0x2668, 0x2668), (0x267B, 0x267B), (0x267E, 0x267E), (0x2692, 0x2692),
  (0x2694, 0x2697), (0x2699, 0x2699), (0x269B, 0x269C), (0x26A0, 0x26A0), (0x26A7, 0x26A7),
  (0x26B0, 0x26B1), (0x26C8, 0x26C8), (0x26CF, 0x26CF), (0x26D1, 0x26D1), (0x26D3, 0x26D3),
  (0x26E9, 0x26E9), (0x26F0, 0x26F1), (0x26F4, 0x26F4), (0x26F7, 0x26F9), (0x2702, 0x2702),
  (0x2708, 0x2709), (0x270C, 0x270D), (0x270F, 0x270F), (0x2712, 0x2712), (0x2714, 0x2714),
  (0x2716, 0x2716), (0x271D, 0x271D), (0x2721, 0x2721), (0x2733, 0x2734), (0x2744, 0x2744),
  (0x2747, 0x2747), (0x2763, 0x2764), (0x27A1, 0x27A1), (0x2934, 0x2935), (0x2B05, 0x2B07),
  (0x1F170, 0x1F171), (0x1F17E, 0x1F17F), (0x1F321, 0x1F321), (0x1F324, 0x1F32C),
  (0x1F336, 0x1F336), (0x1F37D, 0x1F37D), (0x1F396, 0x1F397), (0x1F399, 0x1F39B),
  (0x1F39E, 0x1F39F), (0x1F3CB, 0x1F3CE), (0x1F3D4, 0x1F3DF), (0x1F3F3, 0x1F3F3),
  (0x1F3F5, 0x1F3F5), (0x1F3F7, 0x1F3F7), (0x1F43F, 0x1F43F), (0x1F441, 0x1F441),
  (0x1F4FD, 0x1F4FD), (0x1F549, 0x1F54A), (0x1F56F, 0x1F570), (0x1F573, 0x1F579),
  (0x1F587, 0x1F587), (0x1F58A, 0x1F58D), (0x1F590, 0x1F590), (0x1F5A5, 0x1F5A5),
  (0x1F5A8, 0x1F5A8), (0x1F5B1, 0x1F5B2), (0x1F5BC, 0x1F5BC), (0x1F5C2, 0x1F5C4),
  (0x1F5D1, 0x1F5D3), (0x1F5DC, 0x1F5DE), (0x1F5E1, 0x1F5E1), (0x1F5E3, 0x1F5E3),
  (0x1F5E8, 0x1F5E8), (0x1F5EF, 0x1F5EF), (0x1F5F3, 0x1F5F3), (0x1F5FA, 0x1F5FA),
  (0x1F6CB, 0x1F6CB), (0x1F6CD, 0x1F6CF), (0x1F6E0, 0x1F6E5), (0x1F6E9, 0x1F6E9),
  (0x1F6F0, 0x1F6F0), (0x1F6F3, 0x1F6F3)]

/-- The code point that joins the one behind it to the glyph before it. -/
def joiner : CodePoint := '\u200d'

/-- The code point that asks for the picture of a symbol. -/
def pictureSelector : CodePoint := '\ufe0f'

/-- The glyph with a further code point and further columns. -/
def Glyph.extend (g : Glyph) (c : CodePoint) (more : Nat) : Glyph :=
  ⟨g.content ++ [c], g.columns + more⟩

/-- The glyphs of a text that follows an unfinished glyph.  `base` is the symbol of which a picture
can be asked for, and `joined` holds after a joiner. -/
def glyphsAfter (current : Glyph) (base : Option CodePoint) (joined : Bool) : Text → List Glyph
  | [] => [current]
  | c :: rest =>
      if joined then glyphsAfter (current.extend c 0) base false rest
      else if c = joiner then glyphsAfter (current.extend c 0) base true rest
      else if c = pictureSelector then
        if base.any (isIn pictureBases) then glyphsAfter (current.extend c 1) none false rest
        else glyphsAfter (current.extend c 0) base false rest
      else if columns c = 0 then glyphsAfter (current.extend c 0) base false rest
      else current :: glyphsAfter ⟨[c], columns c⟩ (some c) false rest

/-- The glyphs of a text. -/
def glyphs : Text → List Glyph
  | [] => []
  | c :: rest => glyphsAfter ⟨[c], columns c⟩ (if columns c = 0 then none else some c) false rest

/-- The columns that a text takes. -/
def width (t : Text) : Nat :=
  (glyphs t).foldl (fun columns glyph => columns + glyph.columns) 0

end CurlRequest.Terminal
