import ScriptKeeper.Unicode.CharSet

/-!
# Character classes

The classes of characters that patterns, names and quoted text rely on: words, digits,
blanks, letters, printable characters.

* `isWord`, `isBlank`: what `\w` and `\s` accept;
* `isAlphabetic`, `isNumeric`: what names of groups are made of;
* `isPrintable`, `extendsGrapheme`: what quoted text shows as it stands.
-/

namespace ScriptKeeper.Unicode

/-- The characters with the property `White_Space`. -/
def blanks : CharSet := ⟨
  [(0x9, 0xD), (0x20, 0x20), (0x85, 0x85), (0xA0, 0xA0), (0x1680, 0x1680), (0x2000, 0x200A),
   (0x2028, 0x2029), (0x202F, 0x202F), (0x205F, 0x205F), (0x3000, 0x3000)]⟩

/-- The decimal digits: the general category `Decimal_Number`. -/
def digits : CharSet := ⟨
  [(0x30, 0x39), (0x660, 0x669), (0x6F0, 0x6F9), (0x7C0, 0x7C9), (0x966, 0x96F), (0x9E6, 0x9EF),
   (0xA66, 0xA6F), (0xAE6, 0xAEF), (0xB66, 0xB6F), (0xBE6, 0xBEF), (0xC66, 0xC6F), (0xCE6, 0xCEF),
   (0xD66, 0xD6F), (0xDE6, 0xDEF), (0xE50, 0xE59), (0xED0, 0xED9), (0xF20, 0xF29), (0x1040, 0x1049),
   (0x1090, 0x1099), (0x17E0, 0x17E9), (0x1810, 0x1819), (0x1946, 0x194F), (0x19D0, 0x19D9),
   (0x1A80, 0x1A89), (0x1A90, 0x1A99), (0x1B50, 0x1B59), (0x1BB0, 0x1BB9), (0x1C40, 0x1C49),
   (0x1C50, 0x1C59), (0xA620, 0xA629), (0xA8D0, 0xA8D9), (0xA900, 0xA909), (0xA9D0, 0xA9D9),
   (0xA9F0, 0xA9F9), (0xAA50, 0xAA59), (0xABF0, 0xABF9), (0xFF10, 0xFF19), (0x104A0, 0x104A9),
   (0x10D30, 0x10D39), (0x10D40, 0x10D49), (0x11066, 0x1106F), (0x110F0, 0x110F9),
   (0x11136, 0x1113F), (0x111D0, 0x111D9), (0x112F0, 0x112F9), (0x11450, 0x11459),
   (0x114D0, 0x114D9), (0x11650, 0x11659), (0x116C0, 0x116C9), (0x116D0, 0x116E3),
   (0x11730, 0x11739), (0x118E0, 0x118E9), (0x11950, 0x11959), (0x11BF0, 0x11BF9),
   (0x11C50, 0x11C59), (0x11D50, 0x11D59), (0x11DA0, 0x11DA9), (0x11F50, 0x11F59),
   (0x16130, 0x16139), (0x16A60, 0x16A69), (0x16AC0, 0x16AC9), (0x16B50, 0x16B59),
   (0x16D70, 0x16D79), (0x1CCF0, 0x1CCF9), (0x1D7CE, 0x1D7FF), (0x1E140, 0x1E149),
   (0x1E2F0, 0x1E2F9), (0x1E4F0, 0x1E4F9), (0x1E5F1, 0x1E5FA), (0x1E950, 0x1E959),
   (0x1FBF0, 0x1FBF9)]⟩

/-- The characters of words: alphabetic characters, marks, decimal digits, connector
    punctuation and join controls. -/
def wordCharacters : CharSet := CharSet.ofTable
  "1c.9 8.p 5 2.p 1c b 5 6.m 2.u 2.cp 5.b f.4 8 2 i.38 2.1 3.3 2 7 2.2 2 2.j 2.2a 2.3u 2.4s 2.11
    3 7.14 9.18 2 2.1 2.1 2 9.q 5.3 u.a 6.21 5.2t 2.7 3.9 2.i 3 h.1m 3.2s f.1h 5 3 3.19 j.r 5.a
    6.n 2.5 9.22 2.3k 3.9 2.i 2.7 3.1 3.l 2.6 2 4.3 3.8 3.1 3.3 9 5.1 2.4 3.b b 2 3.2 2.5 5.1 3.l
    2.6 2.1 2.1 2.1 3 2.4 5.1 3.2 4 8.3 2 8.f c.2 2.8 2.2 2.l 2.6 2.1 2.4 3.9 2.2 2.2 3 g.3 3.9
    a.6 2.2 2.7 3.1 3.l 2.6 2.1 2.4 3.8 3.1 3.2 8.2 5.1 2.4 3.9 2 h.1 2.5 4.2 2.3 4.1 2 2.1 4.1
    4.2 4.b 5.4 4.2 2.3 3 7 f.9 h.c 2.2 2.m 2.f 3.8 2.2 2.3 8.1 2.2 3 3.3 3.9 h.3 2.7 2.2 2.m 2.9
    2.4 3.8 2.2 2.3 8.1 7.1 2.3 3.9 2.2 d.c 2.2 2.1e 2.2 2.4 6.3 8.4 3.9 b.5 2.2 2.h 4.n 2.8 2 3.6
    4 5.5 2 2.7 7.9 3.1 e.1l 6.e 2.9 14.1 2 2.4 2.n 2 2.m 3.4 2 2.6 2.9 3.3 x o.1 7.9 c 2 2 5.9
    2.z 5.j 2.h 2.z a 1m.21 7.25 3.11 2 6 3.16 2.98 2.3 3.6 2 2.3 3.14 2.3 3.w 2.3 3.6 2 2.3 3.e
    2.1k 2.3 3.1u 3.2 x.f h.2d 3.5 4.h7 3.g 2.p 6.22 4.a 8.l a.l c.j d.c 2.2 2.1 d.2b 4 5.1 3.9
    y.2 2.a 7.2g 8.16 6.1x b.u 2.b 5.b b.13 3.4 c.17 5.p 7.9 13.r 5.1q 2.s 3.a 7.9 e 9.u 1e.24 4.9
    i.8 d.37 d.1j 9.9 4.1c 3.a 6.16 3.2 h.2 2.12 6.et 3.5 3.11 3.5 3.7 2 2 2 2.u 3.1g 2.6 2 4.2
    2.6 4.3 3.5 5.c 6.2 2.6 g.1 1e.1 k t e h.c 1g.w i 5 3.9 2 4.4 7 2 2 2.3 2.a 3.3 6.4 5 i.14
    mm.1f 1ef.6c 7.8 d.11 2 6 3.1j 8 g.n a.6 2.6 2.6 2.6 2.6 2.6 2.6 2.6 2.v 1c d2.2 q.e 2.4 3.4
    5.2d 3.1 3.2 2.2h 2.3 6.16 2.2l i.v 1d.f e9.533 1t.h3g 1w.19 3.7g 4.r l.1e 2.9 2.36 12.8 3.2u
    3.1u 3.1 2 2.7 m.1h 5 k.1f d.1x b.9 7.n 4 2.1c 3.z d.s 4.1s f.a 7.u 2.1i a.d 3.9 7.m 4.20 p.2
    3.f 3.4 b.5 3.5 3.5 a.6 2.6 2.16 2.d 7.3e 2.1 3.9 7.8mb d.m 5.1c 6it.a5 3.2x 13.6 d.4 6.b 2.c
    2.4 2 2.1 2.1 2.2z y.a2 j.1r 3.1h 15.b 5.f h.f 4.1 p.2 x.4 2.3q k.9 8.p 5 2.p c.2g 4.5 3.5 3.5
    3.2 10.b 2.p 2.i 2.1 2.e 3.d z.3e 1y.1g 3t 3n.s 4.1c g w.v e.t 6.16 6.t 3.z 5.7 2.4 17.4d 3.9
    7.z 5.z 5.13 9.1f d.a 2.e 2.6 2.1 2.a 2.e 2.6 2.1 4.1f d.8m a.l b.7 p.5 2.15 2.8 1y.5 3 2.17
    2.1 4 3.m b.m a.u 1u.i 2.1 b.l b.p 1z.1j 7.1 1t.3 2.1 6.7 2.2 2.s 3.2 5 x.s 4.s 10.7 2.t q.1h
    b.l b.i e.h 33.20 1k.1e e.1e e.13 9.9 7.11 4.4 2.m 6z.15 2.1 4.1 h.2 1k.w b 9.w w.l 17.k s.m
    a.1y w.f a.1n 8 e.o 8.9 7.1g 2.9 5.3 9.z 3 a.1w 5.3 2.c 2 10.h 2.10 7.3 1r.6 2 2.3 2.e 2.9
    8.1m 6.9 7.3 2.7 3.1 3.l 2.6 2.1 2.4 2.9 3.1 3.2 3 7 6.6 3.6 4.4 c.9 2 3 2.11 2.9 2 3 2.3 2.7
    e.1 u.22 6.9 5.3 v.1x 2 9.9 4n.1h 3.8 o.5 z.1s 4 c.9 13.1k 8.9 7.j t.q 3.e 5.9 7.6 56.1m 2u.21
    m.7 3 3.7 2.1 2.t 2.1 3.8 d.9 1z.7 3.19 3.7 2.1 s.1q 9 9.21 4 j.20 5k.w g.9 7.8 2.18 2.8 g.9
    p.t 3.l 2.d 22.6 2.1 2.17 4 2.1 2.8 9.9 7.5 2.1 2.10 2.1 2.5 8.9 8n.m a.g 2.14 4.4 e.a 2e
    28.pl 2v.32 i.5f 219.2o g.tr h.l b.32y 6.g6 5a2.1l 1c7.fs 8.u 2.9 7.26 2.9 7.t 3.4 c.1i a.3
    d.9 a.k 6.i c1.18 4.9 5j.1r 3l.22 5.1k 8.g 1t.1 2.1 c.1 f.4qf 9.yd 16.9 6w8.3 2.6 2.1 2.82 g
    u.2 3 f.3 9.az 1s5.2y 6.c 4.8 8.9 4.1 382.9 ef.19 3.m f3.4 4.5 9.7 3.6 v.3 45.2 cc.2c 2.1y 2.1
    3 3.1 3.3 2.b 2 2.6 2.1s 2.3 3.7 2.6 2.r 2.3 2.4 2 4.6 2.9f 3.o 2.o 2.u 2.o 2.u 2.o 2.u 2.o
    2.u 2.o 2.7 3.1d e9.1i 5.1d 9 f n.4 2.e up.u 7.5 5y.6 2.g 3.6 2.1 2.4 6.1p y 35.18 4.d 3.9 5
    8y.u i.1l d3.15 5z.16 di.6 2.3 2.1 2.e 2.5g c.6 16.23 5.9 x3.3 2.q 2.1 2 3 2.9 2.3 2 2 7 5 2 2
    2.2 2.1 2 3 2 2 2 2 2.1 2 3.3 2.6 2.3 2.3 2 2.9 2.g 6.2 2.4 2.g hh.p 7.p 7.p 21z.9 sn.wyn
    x.37d 7.65 3.4g1 f.5rk g.h9 1wj.f1 15v.3t6 6.38f f9e9.6n"

/-- The characters with the property `Alphabetic`. -/
def alphabetics : CharSet := CharSet.ofTable
  "1t.p 7.p 1c b 5 6.m 2.u 2.cp 5.b f.4 8 2 2f u.h 2.1 3.3 2 7 2.2 2 2.j 2.2a 2.3u 9.4l 2.11 3
    7.14 14.d 2 2.1 2.1 2 9.q 5.3 u.a 6.1j 2.6 f.2t 2.7 5.7 5.2 b.2 3 h.1b e.2s p.w a.1 5 6.n 3.i
    k.o 8.a 6.n 2.5 9 9.15 b.b 4.6 7.23 2.f 2.2 5.e e.i 2.7 3.1 3.l 2.6 2 4.3 4.7 3.1 3.1 2 9 5.1
    2.4 d.1 b 5.2 2.5 5.1 3.l 2.6 2.1 2.1 2.1 5.4 5.1 3.1 5 8.3 2 i.5 c.2 2.8 2.2 2.l 2.6 2.1 2.4
    4.8 2.2 2.1 4 g.3 m.3 5.2 2.7 3.1 3.l 2.6 2.1 2.4 4.7 3.1 3.1 a.1 5.1 2.4 e h.1 2.5 4.2 2.3
    4.1 2 2.1 4.1 4.2 4.b 5.4 4.2 2.2 4 7 15.c 2.2 2.m 2.f 4.7 2.2 2.2 9.1 2.2 3 3.3 t.3 2.7 2.2
    2.m 2.9 2.4 4.7 2.2 2.2 9.1 7.1 2.3 e.2 d.c 2.2 2.14 3.7 2.2 2.2 2 6.3 8.4 n.5 2.2 2.h 4.n 2.8
    2 3.6 9.5 2 2.7 j.1 e.1l 6.6 7 1g.1 2 2.4 2.n 2 2.i 2.2 3.4 2 7 f.3 x 1s.7 2.z 5.i 5.f 2.z
    1w.1i 2 3.4 h.1r b.3 3.11 2 6 3.16 2.98 2.3 3.6 2 2.3 3.14 2.3 3.w 2.3 3.6 2 2.3 3.e 2.1k 2.3
    3.1u 12.f h.2d 3.5 4.h7 3.g 2.p 6.22 4.a 8.j c.k d.j d.c 2.2 2.1 d.1f 3.i f 5 1w.2g 8.16 6.1x
    b.u 2.b 5.8 o.t 3.4 c.17 5.p 1j.r 5.1q 3.j 1f o.1 c.2 1e.1f 2.e 2.7 1g.15 3.3 b.17 2.a f.1i
    n.2 b.z 3.a 6.16 3.2 16.3 2.5 2.1 4 6.5b k.x c.7p 3.5 3.11 3.5 3.7 2 2 2 2.u 3.1g 2.6 2 4.2
    2.6 4.3 3.5 5.c 6.2 2.6 39 e h.c 2u 5 3.9 2 4.4 7 2 2 2.3 2.a 3.3 6.4 5 i.14 mm.1f 1ef.6c 7.3
    4.1 d.11 2 6 3.1j 8 h.m a.6 2.6 2.6 2.6 2.6 2.6 2.6 2.6 2.v 1c d2.2 q.8 8.4 3.4 5.2d 7.2 2.2h
    2.3 6.16 2.2l i.v 1d.f e9.533 1t.h3g 1w.19 3.7g 4.f b.1 l.1a 6.7 4.34 14.8 3.2u 3.1u 3.1 2 2.7
    m.j 2.w p.1f d.1v 2 19.5 4 2.2 b.w 6.y e.s 4.1e 2.b g h.f b.4 2.1i a.d j.m 4.1w 2 2 p.2 3.f
    3.3 c.5 3.5 3.5 a.6 2.6 2.16 2.d 7.3e m.8mb d.m 5.1c 6it.a5 3.2x 13.6 d.4 6.b 2.c 2.4 2 2.1
    2.1 2.2z y.a2 j.1r 3.1h 15.b 39.4 2.3q 11.p 7.p c.2g 4.5 3.5 3.5 3.2 10.b 2.p 2.i 2.1 2.e 3.d
    z.3e 1y.1g 7g.s 4.1c 1c.v e.t 6.16 6.t 3.z 5.7 2.4 17.4d j.z 5.z 5.13 9.1f d.a 2.e 2.6 2.1 2.a
    2.e 2.6 2.1 4.1f d.8m a.l b.7 p.5 2.15 2.8 1y.5 3 2.17 2.1 4 3.m b.m a.u 1u.i 2.1 b.l b.p
    1z.1j 7.1 1t.3 2.1 6.7 2.2 2.s 17.s 4.s 10.7 2.r s.1h b.l b.i e.h 33.20 1k.1e e.1e e.13 z.r 4
    6.m 6z.15 2.1 4.1 h.2 1k 4.s b 9.l 17.h 1b.k s.m a.1x 18.4 b.1k a e.o o.1e i.3 9.y 4 a.1r 2.3
    a.1 b 2 10.h 2.x 3 7.3 1r.6 2 2.3 2.e 2.9 8.1k o.3 2.7 3.1 3.l 2.6 2.1 2.4 4.7 3.1 3.1 4 7 6.6
    t.9 2 3 2.11 2.9 2 3 2.3 2.1 4 2 19.1t 2.2 2.3 l.2 v.1t 3.1 2 55.1h 3.6 q.5 z.1q 2 4 1o.1h 3
    20.q 3.d m.6 56.1k 2w.1r w.7 3 3.7 2.1 2.t 2.1 3.1 3.3 2m.7 3.19 3.5 2 2.1 s.1e 3.9 i.1z 6
    j.20 5k.w w.8 2.18 2.6 2 1e.t 3.l 2.d 22.6 2.1 2.17 4 2.1 2.2 2 3.1 p.5 2.1 2.10 2.1 2.3 2
    94.m a.g 2.14 4.2 34 28.pl 2v.32 i.5f 219.2o g.tr i.5 q.32y 6.g6 5a2.1a 1ci.fs 8.u i.26 i.t
    j.1b h.3 w.k 6.i c1.18 5w.1r 3l.22 5.1k 8.g 1t.1 2 d.1 f.4qf 9.yd 16.9 6w8.3 2.6 2.1 2.82 g
    u.2 3 f.3 9.az 1s5.2y 6.c 4.8 8.9 5 4ma.2c 2.1y 2.1 3 3.1 3.3 2.b 2 2.6 2.1s 2.3 3.7 2.6 2.r
    2.3 2.4 2 4.6 2.9f 3.o 2.o 2.u 2.o 2.u 2.o 2.u 2.o 2.u 2.o 2.7 1f9.u 7.5 5y.6 2.g 3.6 2.1 2.4
    6.1p y 35.18 b.6 h 8y.t j.17 dh.r 6d.t 3 ds.6 2.3 2.1 2.e 2.5g 1o.1v 4 4 xh.3 2.q 2.1 2 3 2.9
    2.3 2 2 7 5 2 2 2.2 2.1 2 3 2 2 2 2 2.1 2 3.3 2.6 2.3 2.3 2 2.9 2.g 6.2 2.4 2.g hh.p 7.p 7.p
    2uv.wyn x.37d 7.65 3.4g1 f.5rk g.h9 1wj.f1 15v.3t6 6.38f"

/-- The numbers of any kind: the general category `Number`. -/
def numerics : CharSet := CharSet.ofTable
  "1c.9 3d.1 6 3.2 142.9 3r.9 5j.9 bh.9 3b.9 5.5 31.9 3b.9 3b.9 3.5 33.c 38.9 9.6 2w.9 2x.6 8.i
    32.9 2p.9 3b.9 1z.j 7h.9 1z.9 k0.j oi.2 6o.9 7.9 n.9 8d.9 3l.a 4m.9 7.9 53.9 2f.9 3r.9 7.9 t3
    4.5 7.9 5j.1e 3.4 k7.1n 27.l hj.t 12i lm q.8 f.2 9k.3 3v.9 v.7 2.e x.9 14.e msh.9 59.9 8x.5
    4b.9 13.9 5j.9 n.9 2f.9 bb.9 gev.9 dq.18 d.1k i.1 9i.q 11.3 u 9 3r.4 5n.9 q7.7 q.6 14.8 24.4
    n.5 4h.1 3.f 3.19 1t.8 1h.1 v.2 24.4 2x.7 p.7 16.6 97.5 1d.9 7.9 7r.u 4f.9 17.3 35.6 3r.t 3l.9
    1p.9 41.9 8.j 70.9 9j.9 3b.9 af.9 2v.9 7.j 25.b bp.i 2m.9 if.9 2f.s 6c.9 1z.9 br.9 2v.k to.32
    c02.9 1t3.9 2f.9 3r.9 2.6 en.9 7b.m imy.9 153.j d.j 31.o uu.1d 1tt.9 br.9 dz.9 6w.9 jx.8 3l.9
    m0.1m 2.2 2.3 25.18 2.e qr.c 25g.9"

/-- The characters that are neither control, format, private-use or unassigned ones nor
    separators; the space alone of the separators is among them. -/
def printables : CharSet := CharSet.ofTable
  "w.2m z.b 2.jt 3.5 5.6 2 2.j 2.b0 2.11 3.1d 3.2 2.1i 9.q 5.5 i.l 2.5b 2.1b 3.1m 3.2s f.1m 3.1c
    3.e 2.r 3 2.a 6.u 9.22 2.4g 2.7 3.1 3.l 2.6 2 4.3 3.8 3.1 3.3 9 5.1 2.4 3.o 3.2 2.5 5.1 3.l
    2.6 2.1 2.1 2.1 3 2.4 5.1 3.2 4 8.3 2 8.g b.2 2.8 2.2 2.l 2.6 2.1 2.4 3.9 2.2 2.2 3 g.3 3.b
    8.6 2.2 2.7 3.1 3.l 2.6 2.1 2.4 3.8 3.1 3.2 8.2 5.1 2.4 3.h b.1 2.5 4.2 2.3 4.1 2 2.1 4.1 4.2
    4.b 5.4 4.2 2.3 3 7 f.k 6.c 2.2 2.m 2.f 3.8 2.2 2.3 8.1 2.2 3 3.3 3.9 8.l 2.2 2.m 2.9 2.4 3.8
    2.2 2.3 8.1 7.1 2.3 3.9 2.2 d.c 2.2 2.1e 2.2 2.5 5.f 3.p 2.2 2.h 4.n 2.8 2 3.6 4 5.5 2 2.7 7.9
    3.2 d.1l 5.s 12.1 2 2.4 2.n 2 2.m 3.4 2 2.6 2.9 3.3 x.1z 2.z 5.12 2.z 2.e 2.c 12.5h 2 6 3.ag
    2.3 3.6 2 2.3 3.14 2.3 3.w 2.3 3.6 2 2.3 3.e 2.1k 2.3 3.1u 3.v 4.p 7.2d 3.5 3.hr 2.r 4.2g 8.l
    a.n a.j d.c 2.2 2.1 d.2l 3.9 7.9 7.d 2.a 7.2g 8.16 6.1x b.u 2.b 5.b 5 4.15 3.4 c.17 5.p 7.a
    4.1p 3.1s 2.s 3.a 7.9 7.d 3.u 1e.24 2.4l 9.1n 4.e 4.1p 6.16 3.a 9.16 6.et 3.5 3.11 3.5 3.7 2 2
    2 2.u 3.1g 2.e 2.d 3.5 2.i 3.2 2.8 i.n 9.1a i.1 3.q 2.c 4.w g.w g.3v 5.ih n.a m.1eb 3.v 2.9o
    6.18 2 6 3.1j 8.1 f.n a.6 2.6 2.6 2.6 2.6 2.6 2.6 2.6 2.3h z.p 2.2g d.5x r.f 2.1q 2.2d 3.2u
    6.16 2.2l 2.2d a.1b 2.mlo 4.1i a.9n l.53 9.5p 3.1 2 2.7 m.1m 4.9 7.1j 9.1x 9.b 7.37 c.t 4.25
    2.a 5.w 2.1i a.d 3.9 3.2u p.r b.5 3.5 3.5 a.6 2.6 2.1n 5.3h 3.9 7.8mb d.m 5.1c 6it.a5 3.2x
    13.6 d.4 6.p 2.4 2 2.1 2.1 2.3g h.cc 3.1h 8 x.15 7.1e 2.i 2.3 5.4 2.3q 5.59 4.5 3.5 3.5 3.2
    4.6 2.6 e.1 3.b 2.p 2.i 2.1 2.e 3.d z.3e 6.2 5.18 4.2f 2.c 4 1c.19 3n.s 4.1c g.r 5.z a.t 6.16
    6.t 2.10 5.d 17.4d 3.9 7.z 5.z 5.13 9.1f c.b 2.e 2.6 2.1 2.a 2.e 2.6 2.1 4.1f d.8m a.l b.7 p.5
    2.15 2.8 1y.5 3 2.17 2.1 4 3.m 2.1z 9.8 1d.i 2.1 6.w 4.q 6 1t.1j 5.j 3.1d 2.1 6.7 2.2 2.s 3.2
    5.9 8.8 8.1r x.12 5.b a.1h 4.s 3.q 6.p 8.3 d.6 29.20 1k.1e e.1e 8.19 9.9 7.11 4.s 9.1 5t.u
    2.15 2.2 3.1 h.2 1k.17 9.15 n.p 13.r l.m a.25 5.z a.1p 2.4 e.o 8.9 7.1g 2.h 9.12 a.2n 2.j c.h
    2.1a 1r.6 2 2.3 2.e 2.a 7.1m 6.9 7.3 2.7 3.1 3.l 2.6 2.1 2.4 2.9 3.1 3.2 3 7 6.6 3.6 4.4 c.9 2
    3 2.11 2.9 2 3 2.3 2.9 2.1 9.1 u.2j 2.4 v.1z 9.9 4n.1h 3.11 z.1w c.9 7.c k.1l 7.9 7.j t.q 3.e
    5.m 56.1n 2t.2a d.7 3 3.7 2.1 2.t 2.1 3.b a.9 1z.7 3.19 3.a s.1z 9.2a e.20 8.9 53.x f.9 7.8
    2.18 2.d b.s 4.v 3.l 2.d 22.6 2.1 2.17 4 2.1 2.8 9.9 7.5 2.1 2.10 2.1 2.5 8.9 8n.o 8.g 2.14
    4.s 2e g.1d e.pm 2v.32 2.4 c.5f 219.2q e.tr h.l b.32y 6.g6 5a2.1l 1c7.fs 8.u 2.9 5.28 2.9 7.t
    3.5 b.1x b.9 2.6 2.k 6.i c1.1l 5j.2i 2u.22 5.1k 8.g 1t.4 c.1 f.4qf 9.yd 16.9 6w8.3 2.6 2.1
    2.82 g u.2 3 f.3 9.az 1s5.2y 6.c 4.8 8.9 3.3 31d.6x 7.c3 25.19 3.m a.37 1p.6t b.12 3.21 9.33
    m.1x 3f.j d.j d.2e a.o 3s.2c 2.1y 2.1 3 3.1 3.3 2.b 2 2.6 2.1s 2.3 3.7 2.6 2.r 2.3 2.4 2 4.6
    2.9f 3.83 3.jh g.4 2.e up.u 7.5 5y.6 2.g 3.6 2.1 2.4 6.1p y 35.18 4.d 3.9 5.1 8x.u i.1l 6
    cx.15 5z.16 5 dd.6 2.3 2.1 2.e 2.5g 3.f 16.23 5.9 5.1 lu.1v 25.1o 5f.3 2.q 2.1 2 3 2.9 2.3 2 2
    7 5 2 2 2.2 2.1 2 3 2 2 2 2 2.1 2 3.3 2.6 2.3 2.3 2 2.9 2.g 6.2 2.4 2.g 1h.1 7j.17 5.2r d.e
    3.e 2.e 2.10 b.4t 1l.s e.17 5.8 8.1 f.5 4b.rb 5.g 4.c 4.3a 5.2m 7.b 5 g.b 5.1j 9.9 7.13 9.t
    3.b 5.1 1r.9f d.d 3.c 4.9 6.1j 8.e 3.a 7.8 8.42 2.2t sn.wyn x.37d 7.65 3.4g1 f.5rk g.h9 1wj.f1
    15v.3t6 6.38f f9e9.6n"

/-- The characters with the property `Grapheme_Extend`. -/
def graphemeExtenders : CharSet := CharSet.ofTable
  "lc.33 7o.6 7c.18 2 2.1 2.1 2 21.a 1d.k h 2u.6 3.5 3.1 2.3 10 v.q 2k.a 1n.8 a p.3 2.8 2.2 2.4
    18.2 1o.8 17.n 2.v 1k 2 5.7 5 4.6 b.1 u 1n 2 3.3 9 a b.1 r 3.1 1m 5.1 5.1 3.2 4 v.1 4 c.1 1m
    5.4 2.1 5 l.1 n.5 2 1n 2.1 2.3 9 8.2 b.1 v 1o 2 d a 15 4 1k 2.2 6.2 2.3 8.1 c.1 u 1n 3.1 2 4.2
    2.3 8.1 c.1 t.1 1m.1 2 3.3 9 a b.1 u 21 5 3.2 2 9 2a 3.6 d.7 2r 3.8 c.6 22.1 s 2 2 1k.d 2.4
    2.1 6.a 2.z a 2v.3 2.5 2.1 3.1 q.1 5.2 h.3 e 3.1 7 g jk.2 qb.3 t.2 u.1 v.1 1t.1 2.6 9 3.a a
    1a.2 2 3a.1 z 3b.2 5.1 a 7.2 64.1 3 1n 2.6 2 2 3.7 7.9 3 1d.u 1e.3 1d.9 5.2 13.8 d.1 x.3 3.5
    1l 2.1 4 2.4 1l.7 3.1 49.2 2.c 2.6 5 7 4.1 5j.1r el 5g.w 2db.2 3y 2p.v ff.5 2y.1 n9x.3 2.9 x.1
    29.1 7l 4 5 q.1 6 48.1 r.h e 13.7 q.a 2 19.2 1d 3.3 3.1 3 11 1w.5 3.1 3.1 d 9 1c 1g 2.2 3.1
    6.1 2 17.1 9 6n 3 5 fn5 ki.f h.f a7.1 gu 6b 46.4 1af.2 2.1 6.3 15.2 5 4m.1 fy.3 1u.4 8u.1 28.3
    1z.a 1e.3 3g 1j.e 16 3.1 b.2 1e.3 3.1 8 1q.2 11.4 2.7 1r d.1 1h.8 2 9.3 3 2o.2 3.3 7 3 4e 4.7
    m.1 1m.1 2 2 d a f.6 4.4 1w 3.5 2 3 2.2 5.2 2 f.1 2e.7 3.2 2 o 2a 3.5 2 3 2.1 2.1 6k 3.3 7.1
    2.1 s.1 2e.7 3 2.1 2z 2 3.7 2u 2 3.3 2.4 78.8 2.1 6u b.3 5 41.3 3.1 5 x.9 15.5 3.3 9 a.5 3.2
    1b.c 2.1 bb.6 2.5 2 2b.l 3.6 2.1 2.1 3f.5 4 2.1 2.6 2 21.1 4 2 9o.1 c.1 1h.4 6.2 o 44m 7.e
    8uh.b 4.2 1xd.4 1o.6 t5 1s.3 2a c.1 f58.1 3mq.19 3.m f3.4 4.5 9.7 3.6 v.3 45.2 1j0.1i 5.1d 9 f
    n.4 2.e 11t.6 2.g 3.6 2.1 2.4 2t 4h.6 ag 1q.3 e5.3 73.1 kh.6 32.6 gzbq.2n 3l.6n"

/-- Whether `c` is a character of words. Of ASCII these are the letters, the digits and the
    underscore; the rest is looked up. -/
def isWord (c : Char) : Bool :=
  if c.toNat < 0x80 then c.isAlphanum || c = '_' else wordCharacters.contains c

/-- Whether `c` is an ASCII letter or digit or the underscore. -/
def isAsciiWord (c : Char) : Bool := c.isAlphanum || c = '_'

/-- Whether `c` is white space. -/
def isBlank (c : Char) : Bool := blanks.contains c

/-- Whether `c` is alphabetic. Of ASCII these are the letters; the rest is looked up. -/
def isAlphabetic (c : Char) : Bool :=
  if c.toNat < 0x80 then c.isAlpha else alphabetics.contains c

/-- Whether `c` is a number of some kind. -/
def isNumeric (c : Char) : Bool := numerics.contains c

/-- Whether `c` has a shape of its own. -/
def isPrintable (c : Char) : Bool := printables.contains c

/-- Whether `c` is drawn together with the character before it. -/
def extendsGrapheme (c : Char) : Bool := graphemeExtenders.contains c

end ScriptKeeper.Unicode
