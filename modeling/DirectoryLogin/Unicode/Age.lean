import DirectoryLogin.Unicode.CharSet
import DirectoryLogin.Unicode.Table

namespace DirectoryLogin.Unicode

def versions : List String :=
  ["1.1", "2.0", "2.1", "3.0", "3.1", "3.2", "4.0", "4.1", "5.0", "5.1", "5.2", "6.0", "6.1",
  "6.2", "6.3", "7.0", "8.0", "9.0", "10.0", "11.0", "12.0", "12.1", "13.0", "14.0", "15.0",
  "15.1", "16.0"]

/-- The code points from 0 on, in runs. A letter tells the place of their version among `versions`, those
after `z` with a capital letter; a hyphen tells that they are no characters. -/
def ageTable : String :=
  "a502 d4 a30 d8 f1 g1 d18 g3 h11 i14 a89 d5 g2 a47 d1 a10 d5 g17 a70 d9 f1 g8 h5 g3 a2 d1 f13 j4
a2 j2 -2 a1 i3 a1 p1 -4 a7 -1 a1 -1 a20 -1 a44 j1 a7 d1 f2 a1 d1 a1 d1 a1 d1 a1 d1 a18 e2 f1 g5 h4
d1 a12 d1 a66 d1 a12 d1 a41 j1 d2 f2 d4 a53 f2 a2 f2 a2 f2 i1 a28 d2 a8 h2 a2 i6 f16 i4 j16 k2 l2
p8 -1 a38 -2 a7 t1 a39 t1 a1 d1 -2 p2 m1 -1 b17 h1 b13 a10 i1 a9 b1 h3 -8 a27 -4 t1 a5 -11 g4 m1 p1
j5 h1 a1 g9 j5 a1 o1 x1 h1 a1 l1 a26 j5 a19 d3 g3 h6 l1 a14 f2 a72 d2 a5 d1 a15 d1 a30 g2 a10 d5 g1
d14 -1 d30 g3 d27 -2 g3 h30 j18 d49 f1 -14 i59 -2 t3 k46 -2 k15 -1 l28 -2 l1 -1 s11 -5 x31 -1 x2 -5
A1 x8 m1 p1 m11 p6 q2 x1 r8 w10 x11 t1 r15 q1 m27 p1 k1 a3 g1 a53 l2 a18 k1 l1 a5 k1 l2 a25 j2 l5
p1 k2 i2 h1 i2 p1 a3 -1 a8 -2 a2 -2 a22 -1 a7 -1 a1 -3 a4 -2 a1 g1 a7 -2 a2 -2 a3 h1 -8 a1 -4 a2 -1
a5 -2 a21 k1 s2 t1 -2 g1 a1 g1 -1 a6 -4 a2 -2 a22 -1 a7 -1 a2 -1 a2 -1 a2 -2 a1 -1 a5 -4 a2 -2 a3
-3 j1 -7 a4 -1 a1 -7 a15 j1 t1 -10 a3 -1 a7 g1 a1 -1 a3 -1 a22 -1 a7 -1 a2 -1 a5 -2 a10 -1 a3 -1 a3
-2 a1 -15 a1 g3 -2 a10 m1 g1 -7 q1 s6 -1 a3 -1 a8 -2 a2 -2 a22 -1 a7 -1 a2 -1 g1 a4 -2 a8 j1 -2 a2
-2 a3 -7 w1 a2 -4 a2 -1 a3 j2 -2 a11 g1 l6 -10 a2 -1 a6 -3 a3 -1 a4 -3 a2 -1 a1 -1 a2 -3 a2 -3 a3
-3 a8 h1 a3 -4 a5 -3 a3 -1 a4 -2 j1 -6 a1 -14 h1 a12 g8 -5 p1 a3 t1 a8 -1 a3 -1 a23 -1 a10 p1 a5 -2
x1 j1 a7 -1 a3 -1 a4 -7 a2 -1 j2 q1 -2 x1 -2 a2 j2 -2 a10 -7 u1 j8 r1 p1 a2 t1 a8 -1 a3 -1 a23 -1
a10 -1 a5 -2 g2 a7 -1 a3 -1 a4 -7 a2 -6 x1 a1 -1 a2 i2 -2 a10 -1 i2 y1 -12 s1 p1 a2 w1 a8 -1 a3 -1
a23 l1 a16 l1 s2 j1 a6 j1 -1 a3 -1 a4 l1 r1 -4 r3 a1 r7 q1 a2 j2 -2 a10 j6 r3 j7 -1 w1 d2 -1 d18 -3
d24 -1 d9 -1 d1 -2 d7 -3 d1 -4 d6 -1 d1 -1 d8 -6 p10 -2 d3 -12 a58 -4 a29 -37 a2 -1 a1 -1 u1 a2 u1
a1 -1 u1 a1 u6 a4 u1 a7 u1 a3 -1 a1 -1 a1 u2 a2 u1 a13 u1 a3 -2 a5 -1 a1 -1 a6 y1 -1 a10 -2 a2 m2
-32 b72 -1 b33 d1 j2 -4 b27 l4 b6 d1 b1 -1 b21 d3 b7 d1 b1 d3 -1 d15 -1 j1 d1 h2 j3 k4 l2 -37 d34
j1 d5 j1 d2 j1 d7 j3 d4 j6 d26 j64 k4 j2 a38 -1 m1 -5 m1 -2 a39 f2 h2 a1 h1 m3 a90 k5 a68 k5 a82 k6
d7 h1 d63 h1 d1 -1 d4 -2 d7 -1 d1 -1 d4 -2 d39 h1 d1 -1 d4 -2 d31 h1 d1 -1 d4 -2 d7 -1 d1 -1 d4 -2
d7 h1 d7 -1 d23 h1 d31 h1 d1 -1 d4 -2 d7 h1 d39 h1 d19 -2 l2 h2 d28 -3 h26 -6 d85 q1 -2 q6 -2 k1
d630 k9 d29 -3 d81 p8 -7 f13 x1 f7 x1 -9 x1 f23 -9 f20 -12 f13 -1 f3 -1 f2 -12 d93 g1 -2 d10 -6 g10
-6 d15 x1 d10 -6 d88 t1 -7 d42 j1 -5 k70 -10 g29 p2 -1 g12 -4 g12 -4 g1 -3 g42 -2 g5 -11 h42 k2 -4
h26 -6 h10 k1 -3 h2 g32 h28 -2 h2 k63 -1 k29 -2 k11 -6 k10 -6 k14 -2 p15 w2 x14 -49 i76 x1 -1 A2
i45 x2 A1 j43 m3 j12 m6 l52 -8 l4 j56 -3 j15 -3 j51 r9 A2 -5 t43 -2 t3 m8 -8 k35 m4 s1 p2 u1 -5
g108 h88 i7 j28 p15 s4 x1 r1 l1 k1 i2 a155 b1 j4 a90 j6 a22 -2 a6 -2 a38 -2 a6 -2 a8 -1 a1 -1 a1 -1
a1 -1 a31 -2 a53 -1 a15 -1 a14 -2 a6 -1 a19 -2 a3 -1 a9 -1 a47 d1 a23 f1 d6 f5 g2 h2 f1 h7 f5 j1 -1
o4 a7 f1 -2 a27 -1 h5 l8 -3 a11 b1 c1 d3 f2 h4 k3 l1 n1 p3 q1 s1 x1 -15 a18 d2 f7 h1 i4 j1 -15 a57
d2 g1 h1 f15 h1 i2 j1 k3 a48 d1 i1 j4 k1 q2 -4 a91 d9 f12 a242 f14 a1 d1 a121 d1 f1 d30 f52 g2 h11
i12 k1 l11 p7 r4 s1 a37 d2 A3 -22 a11 -21 a139 f20 g1 a150 f10 a80 d8 f8 a20 g2 f2 h1 d1 a86 d2 f12
h2 f10 g8 h11 j1 k2 g2 h16 i1 j10 k3 j4 k10 l1 k19 l1 k1 l4 k24 p1 a4 l1 a4 l2 a28 l1 a35 l1 a1 l1
a4 l3 a1 k1 a7 l2 a7 f14 a31 l3 a24 l1 a14 l1 h7 i4 m1 j1 m1 l2 f28 j4 f16 d256 f512 g14 h6 i7 j5
i4 j41 p3 j5 k5 p26 -2 p32 -1 w1 p34 t3 p12 u1 p8 s1 t25 q4 t15 u1 h47 x1 h47 x1 i13 j3 k1 j3 i4 j6
k2 h107 k7 m2 -5 h45 -1 m1 -5 m1 -2 h54 m2 -7 h1 l1 -14 l1 h23 -9 h7 -1 h7 -1 h7 -1 h7 -1 h7 -1 h7
-1 h7 -1 h7 -1 j32 h24 j4 h2 j19 k1 m10 p7 r2 s5 t5 u1 w3 x11 -34 d26 -1 d89 -12 d214 -26 d12 z4
a56 d3 f3 d1 a1 -1 a84 f2 -2 a6 f2 a94 f1 -5 a40 j1 s1 t1 -1 a94 -1 a16 d24 l3 w5 h16 j20 A2 -9 z1
f16 a29 g2 -1 a36 k12 g1 f15 a28 g2 h1 a50 f15 a12 g4 a47 v1 a119 g4 a99 g2 a31 g1 d6582 w10 g64
a20902 h22 j8 k8 m1 q9 s21 t5 w13 x3 d1165 -3 d18 f2 d16 f1 d12 f1 d3 f1 d1 -9 k48 j300 -20 j32 l2
j18 m8 j28 p6 q1 m1 k88 -8 h23 i4 j5 i2 j107 l2 q1 l2 m2 p12 l10 m1 p3 r1 t1 p2 q6 t2 u6 x2 u5 w4
A3 -2 x2 -1 x1 -1 x5 A3 -21 x3 w2 p1 m2 l1 j5 h44 w1 -3 k10 -6 i56 -8 j69 r1 -8 j12 -6 k28 q2 t2
j84 -11 j1 k29 -3 k78 -1 k11 -4 k2 p31 -1 j55 -9 j14 -2 j10 -2 j4 k28 p4 k67 -24 k5 m23 -10 l6 -2
l6 -2 l6 -9 l7 -1 l7 -1 p48 q4 p2 u2 w4 -4 q80 k46 -2 k10 -6 b11172 -12 k23 -4 k49 -2052 a6702 m2
f59 k3 -2 h106 -38 a7 -12 a5 -5 d1 a25 -1 a5 -1 a1 -1 a2 -1 a2 -1 a108 l16 x1 -16 a365 x16 a64 -2
a54 -7 x1 e32 a12 f1 g1 x2 f16 h10 -6 a4 j3 p7 q2 a21 f2 g2 a10 -1 a19 -1 a4 -4 a3 f1 a1 -1 a135 -2
a1 -1 a94 f2 a94 -3 a6 -2 a6 -2 a6 -2 a3 -3 a7 -1 a7 -10 d3 c1 a3 g12 -1 g26 -1 g19 -1 g2 -1 g15 -2
g14 -34 g123 -5 g3 -4 g45 -3 g9 h75 p2 r2 -1 j12 w1 -3 p1 -47 j46 -130 j29 -3 j49 -15 p28 -4 e31 p1
e4 -9 s3 e27 -5 p43 -5 g30 -1 g1 h36 -4 h14 -42 e38 g2 e38 g80 -2 g10 -6 r36 -4 r36 -4 p40 -8 p52
-11 p1 x11 -1 x15 -1 x7 -1 x2 -1 x11 -1 x15 -1 x7 -1 x2 -3 A52 -12 p311 -9 p22 -10 p8 -24 x6 -1 x42
-1 x9 -69 g6 -2 g1 -1 g44 -1 g2 -3 g1 -2 g1 k22 -1 k9 p63 -8 p9 -48 q19 -1 q2 -5 q5 i26 k2 -3 i1
j26 -5 j1 -64 m56 -4 q2 m2 q16 -2 q46 h4 -1 h2 -5 h8 -1 h3 -1 h27 t2 -2 h3 -4 h9 t1 -7 h9 -7 k32
p32 -32 p39 -4 p12 -9 k54 -3 k29 -2 k27 -5 k8 p18 -7 p4 -12 p7 -80 k73 -55 q51 -13 q51 -7 q6 t40 -8
t10 -6 A38 -3 A29 -8 A2 -208 k31 -1 w42 -1 w3 -2 w2 -16 A3 -55 A1 y3 t40 -8 t42 -22 x26 -38 w28 -20
u23 -9 l78 -4 l30 x6 -9 p1 k66 x1 -10 t1 -2 m25 -7 m10 -6 m53 -1 m14 t3 w1 -8 p39 -9 m73 q4 p1 w2
m10 p1 q5 -1 p20 -11 p18 -1 p43 r1 y3 -62 q7 -1 q1 -1 q4 -1 q15 -1 q11 -6 p59 -5 p10 -6 q1 p3 -1 p8
-2 p2 -2 p22 -1 p7 -1 p2 -1 p5 -1 t1 p9 -2 p2 -2 p3 -2 q1 -6 p1 -5 p7 -2 p7 -3 p5 -11 A10 -1 A1 -2
A1 -1 A38 -1 A10 -1 A1 -2 A1 -1 A4 -1 A10 -1 A2 -8 A2 -29 r90 w1 r1 -1 r1 t1 u1 w2 -30 p72 -8 p10
-166 p54 -2 p18 q20 -34 p69 -11 p10 -6 r13 -19 m56 u1 x1 -6 m10 -6 A20 -28 q26 t1 -2 q15 -4 q16 x7
-185 t60 -100 p83 -12 p1 w7 -2 w1 -2 w8 -1 w2 -1 w30 -1 w2 -2 w12 -9 w10 -70 u8 -2 u46 -2 u11 -27
s72 -8 s52 u2 s23 t1 s5 -13 x16 p57 -7 y10 -182 A34 -14 A10 -6 r9 -1 r45 -1 r14 -10 r29 -3 r32 -2
r22 -1 r14 -73 s7 -1 s2 -1 s44 -3 s1 -1 s2 -1 s9 -8 s10 -6 t6 -1 t2 -1 t37 -1 t2 -1 t6 -7 t10 -310
t25 -7 y17 -1 y41 -3 y28 A1 -85 w1 -15 u50 -13 u1 i879 p42 q1 -102 i99 p12 -1 i4 p1 -11 q196 -2636
x99 -13 k1071 y1 u9 y29 -10 A3995 -5 q583 -6841 A58 -1734 l569 -7 p31 -1 p10 -4 p2 x79 -1 x10 -6
p30 -2 p6 -10 p70 -10 p10 -1 p7 -1 p21 -5 p19 -432 A58 -198 t91 -101 m69 u6 -4 u1 m47 u9 -7 m17 -64
r1 s1 u2 w1 -11 w2 -14 r6125 t5 u6 -8 r755 w483 -41 A1 w9 -8935 x4 -1 x7 -1 x2 -1 l2 s285 x4 -15 y1
-29 u3 -2 y1 -14 u4 -8 s396 -2308 p107 -5 p13 -3 p9 -7 p10 -2 p8 -3932 A250 -6 A436 -76 x46 -2 x23
-9 x116 -60 e246 -10 e39 -2 j1 e180 q11 x2 -21 h70 -122 y20 -12 t20 -12 g87 -9 i18 t7 -135 e85 -1
e71 -1 e2 -2 e1 -2 e2 -2 e4 -1 e12 -1 e1 -1 e4 g1 e2 -1 e65 -1 e4 -2 e8 -1 e7 -1 e28 -1 e4 -1 e5 -1
e1 -3 e7 -1 e338 h2 -2 e290 i2 -2 e50 q652 -15 q5 -1 q15 -1104 x31 -6 y6 -213 r7 -1 r17 -2 r7 -1 r2
-1 r5 -5 y62 -33 y1 -112 u45 -3 u14 -2 u10 -4 u2 -320 x31 -17 u58 -5 u1 -464 y42 -214 A43 -4 A1
-480 x7 -1 x4 -1 x2 -1 x15 -1 p197 -2 p16 -41 r75 u1 -4 r10 -4 r2 -785 t68 -76 u61 -194 m4 -1 m27
-1 m2 -1 m1 -2 m1 -1 m10 -1 m4 -1 m1 -1 m1 -6 m1 -4 m1 -1 m1 -1 m1 -1 m3 -1 m2 -1 m1 -2 m1 -1 m1 -1
m1 -1 m1 -1 m1 -1 m2 -1 m1 -2 m4 -1 m7 -1 m4 -1 m4 -1 m1 -1 m10 -1 m17 -5 m3 -1 m5 -1 m17 -52 m2
-270 j44 -4 j100 -12 l15 -2 l14 p1 -1 l15 -1 l15 p22 -10 k11 p2 w3 k31 t1 l1 k1 l11 k1 l1 k1 l2 k1
l3 k1 l3 k5 l8 k1 l7 k1 l10 m2 u1 w3 l9 k1 l1 k2 l2 k1 l10 k4 l2 k1 l10 r18 w1 -56 l26 k1 l2 -13
k34 l9 r1 -4 k9 -7 l2 -14 s6 -154 l33 p12 q3 l6 p1 l70 p1 q2 l20 p12 l37 p1 l5 p4 q5 p12 l17 p7 q8
l63 p1 l1 p1 l182 p1 l4 p2 q1 l62 p2 m4 p7 q5 l24 p18 r1 p41 r1 p86 l5 m1 l16 m1 l3 m1 l1 m1 l1 m1
l1 m1 l3 m1 l6 m2 l4 m1 l1 m2 l4 m1 l12 p2 q2 l11 p48 l70 p10 q1 r2 s2 u1 w2 -4 y1 x3 p13 -3 p4 r3
s2 t1 u1 w2 -3 l116 y3 -4 y5 p85 t4 y1 -6 u12 -4 x1 -15 p12 -4 p56 -8 p10 -6 p40 -8 p30 -2 w2 A10
-4 A2 -62 s12 w1 u3 q9 r6 s1 r8 s8 r1 s2 r12 u1 r12 s1 t3 r15 s13 t5 u1 w1 t4 w2 x1 t1 u1 t4 q5 r13
s6 t11 w2 u6 w3 u2 t10 u6 q1 t2 u8 w1 x1 u3 s23 t25 u84 -12 t14 -2 u4 w1 y3 u3 x2 -3 u3 w4 y2 A1 -5
A1 u6 w19 x4 y3 w7 x4 y3 A1 y1 w3 x3 A1 -7 y2 w7 x3 y2 A1 -2 A1 x8 y1 A1 -6 x7 y2 -7 w147 -1 w55
A37 w10 -1028 b2 e42711 w7 x2 -32 k4149 x4 y1 -6 l222 -2 q5762 -14 s7473 -15 z622 -2466 e542 -1504
b2 w4939 -5 y4192 -56398 b2 -65534 b2 -65534 b2 -65534 b2 -65534 b2 -65534 b2 -65534 b2 -65534 b2
-65534 b2 -65534 b2 -65534 b2 -1 e1 -30 e96 -128 g240 -65038 b131074"

def ageRuns : List (Nat × Nat × String) :=
  runRanges (readRuns 1 ageTable)

def ageLabel (place : Nat) : String :=
  String.singleton (Char.ofNat (if place < 26 then 'a'.toNat + place else 'A'.toNat + place - 26))

/-- The characters of a version, with those of the versions before it. -/
def charactersOf? (version : String) : Option CharSet :=
  (versions.idxOf? version).map fun place =>
    let labels := (List.range (place + 1)).map ageLabel
    CharSet.ofRanges ((ageRuns.filter fun (_, _, label) => labels.contains label).map
      fun (low, high, _) => (low, high))

end DirectoryLogin.Unicode
